import SegmentSync.Configuration.Reader
import SegmentSync.Configuration.Writer
import SegmentSync.Json.Node
import SegmentSync.Proofs.Json.Strings
import SegmentSync.Proofs.Number.Decimal

/-!
# `SegmentSync.Proofs.Configuration.Endpoints` — endpoints survive their text

A host is read without the brackets around it and written with brackets when it holds a colon. Both fit
together, because a host that was read neither begins nor ends with a bracket (`IsBare`): what is written is
cut at the same colon, and its brackets are the ones that were added.

The mark of a socket comes first in reading. A host written without brackets must therefore not be this mark,
and the one host that is, `unix`, is lost: its text stands for a socket whose path is the port.
-/

namespace SegmentSync

namespace Endpoint

/-! ## Brackets -/

/-- A host that no bracket can be taken from. -/
structure IsBare (host : List Char) : Prop where
  nonempty : host ≠ []
  opening : host.head? ≠ some '['
  closing : host.getLast? ≠ some ']'

theorem dropWhile_of_head {c : Char} {chars : List Char} (h : chars.head? ≠ some c) :
    chars.dropWhile (· = c) = chars := by
  cases chars with
  | nil => rfl
  | cons d rest =>
    have hd : d ≠ c := fun heq => h (by rw [heq, List.head?_cons])
    rw [List.dropWhile_cons_of_neg (by simpa using hd)]

theorem head_dropWhile (c : Char) (chars : List Char) : (chars.dropWhile (· = c)).head? ≠ some c := by
  intro h
  have hnot := List.head?_dropWhile_not (· = c) chars
  rw [h] at hnot
  simp at hnot

/-- Without brackets, a host is bare as long as something of it is left. -/
theorem isBare_unbracket {host : List Char} (h : unbracket host ≠ []) : IsBare (unbracket host) := by
  refine ⟨h, ?_, ?_⟩
  · -- What is left begins where the opening brackets end, for it is a part of that from its start on.
    have hstart := head_dropWhile '[' host
    have hpart : unbracket host <+: host.dropWhile (· = '[') := by
      have hsuffix := List.dropWhile_suffix (l := (host.dropWhile (· = '[')).reverse) (· = ']')
      have := List.reverse_prefix.mpr hsuffix
      rwa [List.reverse_reverse] at this
    intro hhead
    obtain ⟨tail, htail⟩ := hpart
    rw [← htail, List.head?_append, hhead] at hstart
    exact hstart rfl
  · unfold unbracket
    rw [List.getLast?_reverse]
    exact head_dropWhile ']' _

theorem unbracket_of_isBare {host : List Char} (h : IsBare host) : unbracket host = host := by
  unfold unbracket
  rw [dropWhile_of_head h.opening, dropWhile_of_head (by rw [List.head?_reverse]; exact h.closing),
    List.reverse_reverse]

/-- The brackets around a bare host are taken off again, and nothing else is. -/
theorem unbracket_brackets {host : List Char} (h : IsBare host) : unbracket ('[' :: host ++ [']']) = host := by
  have hopening : (host ++ [']']).head? ≠ some '[' := by
    rw [List.head?_append, List.head?_eq_some_head h.nonempty, Option.some_or, ← List.head?_eq_some_head h.nonempty]
    exact h.opening
  have hclosing : host.reverse.head? ≠ some ']' := by
    rw [List.head?_reverse]
    exact h.closing
  unfold unbracket
  rw [List.cons_append, List.dropWhile_cons_of_pos (by simp), dropWhile_of_head hopening, List.reverse_append,
    List.reverse_singleton, List.singleton_append, List.dropWhile_cons_of_pos (by simp),
    dropWhile_of_head hclosing, List.reverse_reverse]

/-! ## Reading and writing -/

/-- What can come out of reading: a path that is not empty, or a bare host with a port. -/
def IsReadable : Endpoint → Prop
  | .tcp host _ => IsBare host.toList
  | .socket path => path.toList ≠ []

theorem isReadable_of_read {text : String} {endpoint : Endpoint} (h : read text = .ok endpoint) :
    endpoint.IsReadable := by
  unfold read readChars at h
  split at h
  · simp only at h
    split at h
    · exact absurd h (by simp)
    · rename_i hpath
      obtain rfl := Except.ok.inj h
      simpa [IsReadable] using hpath
  · split at h
    · exact absurd h (by simp)
    · rename_i host port hsplit
      simp only at h
      split at h
      · exact absurd h (by simp)
      · rename_i hhost
        split at h
        · exact absurd h (by simp)
        · obtain rfl := Except.ok.inj h
          simpa [IsReadable] using isBare_unbracket hhost

/-- The host that is the mark of a socket without its colon. -/
def markHost : String := "unix"

theorem socketMark_eq : socketMark = markHost.toList ++ [':'] := by decide

theorem colon_notMem_digits (n : Nat) : ':' ∉ Decimal.digits n := fun h =>
  absurd rfl (Decimal.forall_mem_digits (p := (· ≠ ':')) (by decide) n ':' h)

/-- A text with the mark of a socket is one. -/
theorem readChars_socket {path : List Char} (h : path ≠ []) :
    readChars (socketMark ++ path) = .ok (.socket (String.ofList path)) := by
  have hmark : socketMark.isPrefixOf (socketMark ++ path) = true := by
    rw [List.isPrefixOf_iff_prefix]
    exact List.prefix_append ..
  unfold readChars
  rw [if_pos hmark, List.drop_left, if_neg h]

/-- A text without that mark is cut at its last colon. -/
theorem readChars_tcp {written host : List Char} (port : UInt16)
    (hmark : ¬ socketMark <+: written ++ ':' :: Decimal.digits port.toNat) (hhost : unbracket written = host)
    (hne : host ≠ []) :
    readChars (written ++ ':' :: Decimal.digits port.toNat) = .ok (.tcp (String.ofList host) port) := by
  unfold readChars
  rw [if_neg (by rwa [List.isPrefixOf_iff_prefix]), Text.splitOnceLast_append (colon_notMem_digits _)]
  simp only [hhost, if_neg hne, Decimal.readUInt16_digits]

/-- A host without a colon is written as it is, and taken for a mark only where it is one. -/
theorem not_mark_of_no_colon {host : String} (h : ':' ∉ host.toList) (hne : host ≠ markHost) (rest : List Char) :
    ¬ socketMark <+: host.toList ++ ':' :: rest := by
  rintro ⟨tail, htail⟩
  rw [socketMark_eq, List.append_assoc, List.singleton_append] at htail
  have hcut := Text.splitOnce_append (b := tail) (show ':' ∉ markHost.toList by decide)
  rw [htail, Text.splitOnce_append h] at hcut
  have hhost : host.toList = markHost.toList := congrArg Prod.fst (Option.some.inj hcut)
  exact hne (String.toList_inj.mp hhost)

/-- What is read from the text of an endpoint. -/
def reread : Endpoint → Endpoint
  | .tcp host port => if host = markHost then .socket (Decimal.text port.toNat) else .tcp host port
  | .socket path => .socket path

/-- **The text of an endpoint that was read is read**, as the endpoint or, for one host, as a socket. -/
theorem read_text {endpoint : Endpoint} (h : endpoint.IsReadable) : read endpoint.text = .ok endpoint.reread := by
  unfold read text
  rw [String.toList_ofList]
  cases endpoint with
  | socket path =>
    have hread := readChars_socket h
    rw [String.ofList_toList] at hread
    exact hread
  | tcp host port =>
    by_cases hcolon : ':' ∈ host.toList
    · -- The bracket in front of the host keeps the text from beginning with the mark.
      have hmark : ¬ socketMark <+: ('[' :: host.toList ++ [']']) ++ ':' :: Decimal.digits port.toNat := by
        rintro ⟨tail, htail⟩
        exact absurd (List.cons.inj htail).1 (by decide)
      have hhost : host ≠ markHost := by
        rintro rfl
        exact absurd hcolon (by decide)
      have hread := readChars_tcp port hmark (unbracket_brackets h) h.nonempty
      rw [String.ofList_toList] at hread
      simp only [chars, if_pos hcolon, reread, if_neg hhost]
      exact hread
    · simp only [chars, if_neg hcolon, reread]
      by_cases hhost : host = markHost
      · have hsocket := readChars_socket (Decimal.digits_ne_nil port.toNat)
        rw [if_pos hhost, hhost]
        rw [socketMark_eq, List.append_assoc] at hsocket
        exact hsocket
      · have hread := readChars_tcp port (not_mark_of_no_colon hcolon hhost _) (unbracket_of_isBare h) h.nonempty
        rw [String.ofList_toList] at hread
        rw [if_neg hhost]
        exact hread

/-! ## Documents -/

section

variable {ν : Type} [Node ν]

/-- Readers of documents take an endpoint from the text of a node. -/
theorem reader_of_text {node : ν} {endpoint endpoint' : Endpoint} (hnode : Node.text? node = some endpoint.text)
    (h : read endpoint.text = .ok endpoint') : Endpoint.reader node = some endpoint' := by
  unfold Endpoint.reader
  simp only [hnode, h, Option.bind_eq_bind, Option.bind_some]
  rfl

end

/-- The text of an endpoint stands for `endpoint'`: as it is, in the text of any node of a document, in JSON, and in
    a side of a session. -/
structure StandsFor (endpoint endpoint' : Endpoint) : Prop where
  text : read endpoint.text = .ok endpoint'
  node : ∀ {ν : Type} [Node ν] (node : ν), Node.text? node = some endpoint.text →
    Endpoint.reader node = some endpoint'
  json : Json.readAs? Endpoint.reader (Utf8.encode (Json.Value.text endpoint.text).write) = some endpoint'
  side : ∀ password : Option String,
    Side.reader (Side.json { endpoint, password }) = some { endpoint := endpoint', password }

theorem standsFor_of_read {endpoint endpoint' : Endpoint} (h : read endpoint.text = .ok endpoint') :
    StandsFor endpoint endpoint' where
  text := h
  node := fun _ hnode => reader_of_text hnode h
  json := by
    unfold Json.readAs?
    rw [Json.read?_text]
    exact reader_of_text rfl h
  side := by
    intro password
    have hendpoint : Endpoint.reader (Json.Value.text endpoint.text) = some endpoint' := reader_of_text rfl h
    have hmembers : Node.members? ["endpoint", "password"] (Side.json { endpoint, password }) =
        some [some (Json.Value.text endpoint.text), some (passwordJson password)] := rfl
    have hpassword : Reader.nullable Node.text? (passwordJson password) = some password := by
      cases password with
      | none => rfl
      | some password => rfl
    unfold Side.reader
    simp only [hmembers, Reader.required, Reader.withDefault, hendpoint, hpassword, Option.bind_eq_bind,
      Option.bind_some, Option.pure_def]

/-- **An endpoint comes back from its text, in documents as well**, unless its host is `unix`: then its text stands
    for the socket whose path is the port. -/
theorem endpoint_survives_text {text : String} {endpoint : Endpoint} (h : read text = .ok endpoint) :
    ((∀ port, endpoint ≠ .tcp "unix" port) → StandsFor endpoint endpoint) ∧
      ∀ port, endpoint = .tcp "unix" port → StandsFor endpoint (.socket (Decimal.text port.toNat)) := by
  have hread := read_text (isReadable_of_read h)
  constructor
  · intro hhost
    have hsame : endpoint.reread = endpoint := by
      cases endpoint with
      | socket path => rfl
      | tcp host port =>
        rw [reread, if_neg]
        rintro rfl
        exact hhost port rfl
    rw [hsame] at hread
    exact standsFor_of_read hread
  · rintro port rfl
    exact standsFor_of_read hread

theorem endpoint_survives_text_unless_unix :
    read "[::1]:+9901" = .ok (.tcp "::1" 9901) ∧ StandsFor (.tcp "::1" 9901) (.tcp "::1" 9901) ∧
      read "[unix]:9900" = .ok (.tcp "unix" 9900) ∧ StandsFor (.tcp "unix" 9900) (.socket "9900") := by
  have hplain : read "[::1]:+9901" = .ok (.tcp "::1" 9901) := rfl
  have hmark : read "[unix]:9900" = .ok (.tcp "unix" 9900) := rfl
  have hpath : Decimal.text (9900 : UInt16).toNat = "9900" := by cbv
  refine ⟨hplain, (endpoint_survives_text hplain).1 ?_, hmark, ?_⟩
  · intro port h
    exact absurd (Endpoint.tcp.inj h).1 (by decide)
  · rw [← hpath]
    exact (endpoint_survives_text hmark).2 9900 rfl

end Endpoint

end SegmentSync
