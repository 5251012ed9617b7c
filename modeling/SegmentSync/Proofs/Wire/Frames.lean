import SegmentSync.Digest.Challenge
import SegmentSync.Proofs.Number.Decimal
import SegmentSync.Proofs.Text.Utf8
import SegmentSync.Wire.Frame

/-!
# `SegmentSync.Proofs.Wire.Frames` — requests can be told apart

Keys, values and exported segments are octets of any kind, among them ends of lines and the marks of the protocol. What
keeps them in their place is that each part stands behind its length. `Frame.IsFrame` is the grammar of the arrays of
byte strings that requests are sent as. It is unambiguous, also where many frames stand in a row, because the reader
takes apart what the grammar derives in one way only.

## Contents
- **Grammar.** `Frame.IsHeader`, `Frame.IsPart` and `Frame.IsFrame`, and `Frame.InRow` for many of a kind.
- **Writing.** What is written is derived by the grammar.
- **Reading.** What is read is what the grammar derives, piece by piece (`Frame.readFrames?_eq_some_iff`).
- **Requests.** `Request.Made`: requests of which it is known where the words of the command end. They are told apart
  by their octets (`Request.frames_unambiguous`).
-/

namespace SegmentSync.Frame

/-! ## Grammar -/

/-- The octet of a digit. -/
def octet (d : Fin 10) : UInt8 := UInt8.ofNat (48 + d.val)

/-- A line with a number: a mark, one digit or more, and the end of the line. There may be zeros in front. -/
inductive IsHeader (mark : UInt8) : Nat → Bytes → Prop where
  | digits {ds : List (Fin 10)} (h : ds ≠ []) :
    IsHeader mark (Decimal.extend 0 ds) (mark :: (ds.map octet ++ lineEnd))

/-- A part is its content, behind a line with its length and before the end of a line. -/
inductive IsPart : Bytes → Bytes → Prop where
  | content {line content : Bytes} (h : IsHeader 36 content.length line) :
    IsPart content (line ++ (content ++ lineEnd))

/-- Any number of pieces, one after the other. -/
inductive InRow {α : Type} (IsPiece : α → Bytes → Prop) : List α → Bytes → Prop where
  | nil : InRow IsPiece [] []
  | cons {piece : α} {pieces : List α} {bytes rest : Bytes} (h : IsPiece piece bytes)
      (hrest : InRow IsPiece pieces rest) : InRow IsPiece (piece :: pieces) (bytes ++ rest)

/-- A frame is its parts, behind a line with their number. -/
inductive IsFrame : List Bytes → Bytes → Prop where
  | parts {parts : List Bytes} {line bytes : Bytes} (h : IsHeader 42 parts.length line)
      (hparts : InRow IsPart parts bytes) : IsFrame parts (line ++ bytes)

/-! ## Writing -/

theorem encodeChars_digitChar (ds : List (Fin 10)) : Utf8.encodeChars (ds.map Decimal.digitChar) = ds.map octet := by
  have hdigit : ∀ d : Fin 10, Utf8.encodeChar (Decimal.digitChar d) = [octet d] := by decide
  induction ds with
  | nil => rfl
  | cons d rest ih =>
    rw [List.map_cons, Utf8.encodeChars_cons, hdigit, ih]
    rfl

theorem isHeader_header {mark : Char} {byte : UInt8} (hmark : Utf8.encodeChar mark = [byte]) (n : Nat) :
    IsHeader byte n (header mark n) := by
  obtain ⟨ds, hne, hds, rfl⟩ := Decimal.exists_digits n
  have hline : header mark (Decimal.extend 0 ds) = byte :: (ds.map octet ++ lineEnd) := by
    rw [header, hmark, hds, encodeChars_digitChar]
    rfl
  rw [hline]
  exact .digits hne

theorem isPart_part (content : Bytes) : IsPart content (part content) := by
  rw [part, List.append_assoc]
  exact .content (isHeader_header (by decide) content.length)

/-- What writes each piece writes many in a row. -/
theorem inRow_flatMap {α : Type} {IsPiece : α → Bytes → Prop} {write : α → Bytes} (h : ∀ a, IsPiece a (write a))
    (as : List α) : InRow IsPiece as (as.flatMap write) := by
  induction as with
  | nil => exact .nil
  | cons a rest ih =>
    rw [List.flatMap_cons]
    exact .cons (h a) ih

theorem isFrame_frame (parts : List Bytes) : IsFrame parts (frame parts) :=
  .parts (isHeader_header (by decide) parts.length) (inRow_flatMap isPart_part parts)

/-! ## Reading -/

theorem digit?_octet (d : Fin 10) : digit? (octet d) = some d.val := by
  revert d; decide

theorem octet_ne_return (d : Fin 10) : octet d ≠ 13 := by
  revert d; decide

theorem digit?_eq_some {byte : UInt8} {n : Nat} (h : digit? byte = some n) :
    ∃ d : Fin 10, byte = octet d ∧ n = d.val := by
  unfold digit? at h
  split at h
  · rename_i hrange
    simp only [Bool.and_eq_true, decide_eq_true_eq] at hrange
    obtain rfl := Option.some.inj h
    refine ⟨⟨byte.toNat - 48, by omega⟩, ?_, rfl⟩
    show byte = UInt8.ofNat (48 + (byte.toNat - 48))
    rw [Nat.add_sub_cancel' hrange.1, UInt8.ofNat_toNat]
  · cases h

theorem readDigits?_eq_some_iff {n m : Nat} {bytes rest : Bytes} :
    readDigits? n bytes = some (m, rest) ↔
      ∃ ds : List (Fin 10), bytes = ds.map octet ++ (lineEnd ++ rest) ∧ Decimal.extend n ds = m := by
  constructor
  · intro h
    -- Induction along the reader: the line ends here, or there is one more digit.
    induction n, bytes using readDigits?.induct with
    | case1 n left =>
      simp only [readDigits?] at h
      obtain ⟨rfl, rfl⟩ := Prod.mk.inj (Option.some.inj h)
      exact ⟨[], rfl, rfl⟩
    | case2 n byte left hmore ih =>
      rw [readDigits?] at h
      · obtain ⟨d, hd, h⟩ := Option.bind_eq_some_iff.mp h
        obtain ⟨ds, rfl, hm⟩ := ih d h
        obtain ⟨d, rfl, rfl⟩ := digit?_eq_some hd
        exact ⟨d :: ds, rfl, hm⟩
      · exact hmore
    | case3 n => cases h
  · rintro ⟨ds, rfl, rfl⟩
    induction ds generalizing n with
    | nil => rfl
    | cons d ds ih =>
      rw [List.map_cons, List.cons_append, readDigits?]
      · rw [digit?_octet]
        exact ih
      · intro left hreturn
        exact absurd hreturn (octet_ne_return d)

theorem readHeader?_eq_some_iff {mark : UInt8} {n : Nat} {bytes rest : Bytes} :
    readHeader? mark bytes = some (n, rest) ↔ ∃ line, IsHeader mark n line ∧ bytes = line ++ rest := by
  constructor
  · intro h
    unfold readHeader? at h
    split at h
    · split at h
      · rename_i byte _ _ hmark
        obtain ⟨d, hd, h⟩ := Option.bind_eq_some_iff.mp h
        obtain ⟨d, rfl, rfl⟩ := digit?_eq_some hd
        obtain ⟨ds, rfl, hn⟩ := readDigits?_eq_some_iff.mp h
        have hfirst : Decimal.extend 0 (d :: ds) = n := by
          rw [← hn]
          show Decimal.extend (0 * 10 + d.val) ds = _
          rw [Nat.zero_mul, Nat.zero_add]
        refine ⟨mark :: ((d :: ds).map octet ++ lineEnd), ?_, ?_⟩
        · rw [← hfirst]
          exact .digits (List.cons_ne_nil d ds)
        · simp only [hmark, List.map_cons, List.cons_append, List.append_assoc]
      · cases h
    · cases h
  · rintro ⟨line, hline, rfl⟩
    cases hline with
    | @digits ds hne =>
      obtain ⟨d, ds, rfl⟩ := List.exists_cons_of_ne_nil hne
      simp only [List.map_cons, List.cons_append, List.append_assoc, readHeader?, if_true, digit?_octet]
      refine readDigits?_eq_some_iff.mpr ⟨ds, rfl, ?_⟩
      show _ = Decimal.extend (0 * 10 + d.val) ds
      rw [Nat.zero_mul, Nat.zero_add]

/-- A part is read by its length, whatever its octets are. -/
theorem readPart?_eq_some_iff {content bytes rest : Bytes} :
    readPart? bytes = some (content, rest) ↔ ∃ front, IsPart content front ∧ bytes = front ++ rest := by
  constructor
  · intro h
    obtain ⟨⟨length, behind⟩, hheader, hrest⟩ := Option.bind_eq_some_iff.mp h
    clear h
    obtain ⟨line, hline, rfl⟩ := readHeader?_eq_some_iff.mp hheader
    dsimp only at hrest
    by_cases hlong : behind.length < length
    · rw [if_pos hlong] at hrest
      cases hrest
    · rw [if_neg hlong, List.splitAt_eq] at hrest
      have hlength : (behind.take length).length = length := List.length_take_of_le (Nat.le_of_not_lt hlong)
      dsimp only at hrest
      split at hrest
      · rename_i left hend
        obtain ⟨rfl, rfl⟩ := Prod.mk.inj (Option.some.inj hrest)
        refine ⟨line ++ (behind.take length ++ lineEnd), .content (hlength.symm ▸ hline), ?_⟩
        rw [List.append_assoc, List.append_assoc]
        show line ++ behind = line ++ (behind.take length ++ 13 :: 10 :: left)
        rw [← hend, List.take_append_drop]
      · cases hrest
  · rintro ⟨front, hfront, rfl⟩
    cases hfront with
    | @content line content hline =>
      have hread : readHeader? 36 (line ++ (content ++ lineEnd) ++ rest) =
          some (content.length, content ++ (lineEnd ++ rest)) :=
        readHeader?_eq_some_iff.mpr ⟨line, hline, by simp only [List.append_assoc]⟩
      unfold readPart?
      rw [hread]
      have hlong : ¬ (content ++ (lineEnd ++ rest)).length < content.length := by
        rw [List.length_append]
        omega
      simp only [Option.bind_eq_bind, Option.bind_some, if_neg hlong, List.splitAt_eq, List.take_left, List.drop_left]
      rfl

theorem readParts?_eq_some_iff {n : Nat} {parts : List Bytes} {bytes rest : Bytes} :
    readParts? n bytes = some (parts, rest) ↔
      parts.length = n ∧ ∃ front, InRow IsPart parts front ∧ bytes = front ++ rest := by
  induction n generalizing parts bytes with
  | zero =>
    constructor
    · intro h
      obtain ⟨rfl, rfl⟩ := Prod.mk.inj (Option.some.inj h)
      exact ⟨rfl, [], .nil, rfl⟩
    · rintro ⟨hlength, front, hfront, rfl⟩
      cases hfront with
      | nil => rfl
      | cons => cases hlength
  | succ n ih =>
    constructor
    · intro h
      obtain ⟨⟨content, behind⟩, hpart, h⟩ := Option.bind_eq_some_iff.mp h
      obtain ⟨⟨more, left⟩, hmore, h⟩ := Option.bind_eq_some_iff.mp h
      obtain ⟨rfl, rfl⟩ := Prod.mk.inj (Option.some.inj h)
      obtain ⟨front, hfront, rfl⟩ := readPart?_eq_some_iff.mp hpart
      obtain ⟨rfl, later, hlater, rfl⟩ := ih.mp hmore
      exact ⟨rfl, front ++ later, .cons hfront hlater, (List.append_assoc _ _ _).symm⟩
    · rintro ⟨hlength, front, hfront, rfl⟩
      cases hfront with
      | nil => cases hlength
      | @cons content more front later hpart hmore =>
        have hread := readPart?_eq_some_iff.mpr ⟨front, hpart, List.append_assoc front later rest⟩
        have hrest := ih.mpr ⟨Nat.succ.inj hlength, later, hmore, rfl⟩
        rw [readParts?, hread]
        show (readParts? n (later ++ rest) >>= _) = _
        rw [hrest]
        rfl

theorem readFrame?_eq_some_iff {parts : List Bytes} {bytes rest : Bytes} :
    readFrame? bytes = some (parts, rest) ↔ ∃ front, IsFrame parts front ∧ bytes = front ++ rest := by
  constructor
  · intro h
    obtain ⟨⟨n, behind⟩, hheader, hrest⟩ := Option.bind_eq_some_iff.mp h
    obtain ⟨line, hline, rfl⟩ := readHeader?_eq_some_iff.mp hheader
    obtain ⟨rfl, front, hfront, rfl⟩ := readParts?_eq_some_iff.mp hrest
    exact ⟨line ++ front, .parts hline hfront, (List.append_assoc _ _ _).symm⟩
  · rintro ⟨front, hfront, rfl⟩
    cases hfront with
    | @parts line bytes hline hparts =>
      have hread := readHeader?_eq_some_iff.mpr ⟨line, hline, List.append_assoc line bytes rest⟩
      rw [readFrame?, hread]
      exact readParts?_eq_some_iff.mpr ⟨rfl, bytes, hparts, rfl⟩

/-- A frame is not empty, so that reading one after the other comes to an end. -/
theorem IsFrame.length_pos {parts : List Bytes} {bytes : Bytes} (h : IsFrame parts bytes) : 0 < bytes.length := by
  cases h with
  | @parts line bytes hline hparts =>
    generalize parts.length = n at hline
    cases hline with
    | digits hne => exact Nat.succ_pos _

/-- There are no frames in nothing. -/
theorem inRow_isFrame_nil_iff {frames : List (List Bytes)} : InRow IsFrame frames [] ↔ frames = [] := by
  constructor
  · intro h
    generalize hbytes : ([] : Bytes) = bytes at h
    cases h with
    | nil => rfl
    | cons hframe hrest =>
      have hnil := (List.append_eq_nil_iff.mp hbytes.symm).1
      exact absurd hframe.length_pos (by rw [hnil]; exact Nat.lt_irrefl 0)
  · rintro rfl
    exact .nil

theorem readFramesUpTo?_eq_some_iff {fuel : Nat} {frames : List (List Bytes)} {bytes : Bytes}
    (hfuel : bytes.length ≤ fuel) : readFramesUpTo? fuel bytes = some frames ↔ InRow IsFrame frames bytes := by
  induction fuel generalizing frames bytes with
  | zero =>
    obtain rfl := List.eq_nil_of_length_eq_zero (Nat.le_zero.mp hfuel)
    rw [inRow_isFrame_nil_iff, readFramesUpTo?, Option.some_inj, eq_comm]
  | succ fuel ih =>
    by_cases hnil : bytes = []
    · subst hnil
      rw [inRow_isFrame_nil_iff, readFramesUpTo?, Option.some_inj, eq_comm]
    rw [readFramesUpTo?.eq_3 bytes fuel hnil]
    constructor
    · intro h
      obtain ⟨⟨parts, behind⟩, hframe, hrest⟩ := Option.bind_eq_some_iff.mp h
      obtain ⟨more, hmore, hframes⟩ := Option.bind_eq_some_iff.mp hrest
      obtain rfl := Option.some.inj hframes
      obtain ⟨front, hfront, rfl⟩ := readFrame?_eq_some_iff.mp hframe
      have hpos := hfront.length_pos
      rw [List.length_append] at hfuel
      exact .cons hfront ((ih (by omega)).mp hmore)
    · intro h
      cases h with
      | nil => exact absurd rfl hnil
      | @cons parts more front rest hframe hmore =>
        have hpos := hframe.length_pos
        rw [List.length_append] at hfuel
        rw [readFrame?_eq_some_iff.mpr ⟨front, hframe, rfl⟩]
        show (readFramesUpTo? fuel rest >>= _) = _
        rw [(ih (by omega)).mpr hmore]
        rfl

/-- **Frames are read by their grammar**: octets are read as frames exactly where they are these frames in a row. -/
theorem readFrames?_eq_some_iff {frames : List (List Bytes)} {bytes : Bytes} :
    readFrames? bytes = some frames ↔ InRow IsFrame frames bytes :=
  readFramesUpTo?_eq_some_iff (Nat.le_refl _)

end SegmentSync.Frame

namespace SegmentSync.Request

/-! ## Requests -/

/-- The requests that are sent: those of each command. The answer to a login challenge is a digest. -/
inductive Made : Request → Prop where
  | nsInfo (space : String) : Made (.nsInfo space)
  | nsFreeze (space : String) (enabled : Bool) : Made (.nsFreeze space enabled)
  | nsJump : Made .nsJump
  | dataExport (start : Position) : Made (.dataExport start)
  | dataImport (at_ : Position) (blob : Bytes) : Made (.dataImport at_ blob)
  | dataRaw (at_ : Position) : Made (.dataRaw at_)
  | set (key value marker : Bytes) : Made (.set key value marker)
  | del (key marker : Bytes) : Made (.del key marker)
  | authChallenge : Made .authChallenge
  | authSecure (challenge password : String) : Made (.authSecure (challengeDigest challenge password))
  | select (space : String) (password : Option String) : Made (.select space password)

theorem Made.exists_digest {request : Request} (h : request.Made) (hsecure : request.command = .authSecure) :
    ∃ challenge password, request.arguments = [Utf8.encode (challengeDigest challenge password)] := by
  cases h with
  | authSecure challenge password => exact ⟨challenge, password, rfl⟩
  | _ => cases hsecure

/-- The words of one command begin those of another in one case only. -/
theorem words_prefix {command command' : Command}
    (h : command.words.map Utf8.encode <+: command'.words.map Utf8.encode) :
    command = command' ∨ (command = .authSecure ∧ command' = .authChallenge) := by
  revert command command'
  have hall : ∀ c ∈ Command.all, ∀ c' ∈ Command.all, c.words.map Utf8.encode <+: c'.words.map Utf8.encode →
      c = c' ∨ (c = .authSecure ∧ c' = .authChallenge) := by decide
  exact fun {c c'} => hall c c.mem_all c' c'.mem_all

/-- In that case the words go on where there would be a digest. -/
theorem Made.command_eq {request request' : Request} (h : request.Made) (hparts : request.parts = request'.parts)
    (hwords : request.command.words.map Utf8.encode <+: request'.command.words.map Utf8.encode) :
    request.command = request'.command := by
  rcases words_prefix hwords with heq | ⟨hsecure, hchallenge⟩
  · exact heq
  · obtain ⟨challenge, password, hdigest⟩ := h.exists_digest hsecure
    unfold parts at hparts
    rw [hsecure, hchallenge, hdigest] at hparts
    have hword : Utf8.encode (challengeDigest challenge password) = Utf8.encode "CHALLENGE" :=
      (List.cons.inj (List.cons.inj (List.cons.inj hparts).2).2).1
    have hlength := challengeDigest_length challenge password
    rw [Utf8.encode_injective hword] at hlength
    exact absurd hlength (by decide)

/-- What was sent is read back: the words and the arguments of each request, and nothing else. -/
theorem inRow_encode (requests : List Request) :
    Frame.InRow Frame.IsFrame (requests.map parts) (requests.flatMap encode) := by
  have hrow := Frame.inRow_flatMap Frame.isFrame_frame (requests.map parts)
  rwa [List.flatMap_map] at hrow

theorem inRow_encode_iff {requests : List Request} {frames : List (List Bytes)} :
    Frame.InRow Frame.IsFrame frames (requests.flatMap encode) ↔ frames = requests.map parts := by
  have hread := Frame.readFrames?_eq_some_iff.mpr (inRow_encode requests)
  rw [← Frame.readFrames?_eq_some_iff, hread, Option.some_inj, eq_comm]

/-- **Requests can be told apart by their octets.** However many requests are sent one after the other, and whatever
    their arguments are, the octets are read as frames in one way only, which gives the words and the arguments of each
    request; so no argument ends a frame or begins another one. A request that is sent by itself is known by its octets,
    as the digests of logins are no words of a command. -/
theorem frames_unambiguous :
    (∀ requests : List Request,
      Frame.readFrames? (requests.flatMap encode) = some (requests.map parts) ∧
      ∀ frames, Frame.InRow Frame.IsFrame frames (requests.flatMap encode) ↔ frames = requests.map parts) ∧
    ∀ request request' : Request, request.Made → request'.Made → request.encode = request'.encode →
      request.command = request'.command ∧ request.arguments = request'.arguments := by
  refine ⟨fun requests => ⟨Frame.readFrames?_eq_some_iff.mpr (inRow_encode requests), fun _ => inRow_encode_iff⟩, ?_⟩
  intro request request' hmade hmade' hencode
  have hparts : request.parts = request'.parts := by
    have hrow := inRow_encode [request]
    rw [List.flatMap_singleton, hencode, ← List.flatMap_singleton encode, inRow_encode_iff] at hrow
    exact (List.cons.inj hrow).1
  have hcommand : request.command = request'.command := by
    have hbegins : request.command.words.map Utf8.encode <+: request'.parts := ⟨request.arguments, hparts⟩
    have hbegins' : request'.command.words.map Utf8.encode <+: request'.parts := List.prefix_append _ _
    rcases List.prefix_or_prefix_of_prefix hbegins hbegins' with hwords | hwords
    · exact hmade.command_eq hparts hwords
    · exact (hmade'.command_eq hparts.symm hwords).symm
  refine ⟨hcommand, ?_⟩
  unfold parts at hparts
  rw [hcommand] at hparts
  exact List.append_cancel_left hparts

/-- Two challenges whose digests are the same, as colons do not tell where a challenge ends: their answers are one
    request. -/
theorem frames_unambiguous_of_same_digest :
    (authSecure (challengeDigest "a:b" "c")).encode = (authSecure (challengeDigest "a" "b:c")).encode ∧
      (authSecure (challengeDigest "a:b" "c")).arguments = (authSecure (challengeDigest "a" "b:c")).arguments := by
  have hmessage : Utf8.encode "a:b" ++ Utf8.encode ":" ++ Utf8.encode "c" =
      Utf8.encode "a" ++ Utf8.encode ":" ++ Utf8.encode "b:c" := by decide
  have hdigest : challengeDigest "a:b" "c" = challengeDigest "a" "b:c" := by
    unfold challengeDigest
    rw [hmessage]
  have hencode : (authSecure (challengeDigest "a:b" "c")).encode = (authSecure (challengeDigest "a" "b:c")).encode := by
    rw [hdigest]
  have htold := frames_unambiguous.2 _ _ (.authSecure "a:b" "c") (.authSecure "a" "b:c") hencode
  exact ⟨hencode, htold.2⟩

/-- An answer that is no digest may be sent as the request for a challenge. -/
example : (authSecure "CHALLENGE").encode = authChallenge.encode := rfl

end SegmentSync.Request
