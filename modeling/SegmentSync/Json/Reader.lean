import SegmentSync.Json.Value

/-!
# `SegmentSync.Json.Reader` — reading JSON

The reader works on octets. It takes one value off the front of its input at a time; `read?` wants nothing
but white space after it. Containers may be nested to any depth; `fuel` bounds the number of steps, and the
length of the input is enough of it.
-/

namespace SegmentSync.Json

/-- White space between the parts of a value. -/
def isSpace (byte : UInt8) : Bool := byte = 32 || byte = 10 || byte = 13 || byte = 9

/-- Without white space at the front. -/
def skipSpace (bytes : Bytes) : Bytes := bytes.dropWhile isSpace

/-- An ASCII digit. -/
def isDigit (byte : UInt8) : Bool := 48 ≤ byte.toNat && byte.toNat ≤ 57

/-- The longest run of digits at the front, and the rest. -/
def takeDigits (bytes : Bytes) : List Char × Bytes :=
  ((bytes.takeWhile isDigit).map fun b => Char.ofNat b.toNat, bytes.dropWhile isDigit)

/-! ## Numbers -/

/-- Takes the digits before the point off the front: none but a lone zero begins with zero. -/
def readWhole? (bytes : Bytes) : Option (List Char × Bytes) :=
  match takeDigits bytes with
  | ([], _) => none
  | ('0' :: _ :: _, _) => none
  | (digits, rest) => some (digits, rest)

/-- Takes a point and the digits after it off the front, if there is a point. -/
def readFraction? : Bytes → Option (Option (List Char) × Bytes)
  | 46 :: rest =>
    match takeDigits rest with
    | ([], _) => none
    | (digits, rest) => some (some digits, rest)
  | bytes => some (none, bytes)

/-- Takes the sign of an exponent off the front. -/
def readSign : Bytes → Bool × Bytes
  | 45 :: rest => (true, rest)
  | 43 :: rest => (false, rest)
  | bytes => (false, bytes)

/-- Takes an exponent off the front, if there is one. -/
def readExponent? : Bytes → Option (Option (Bool × List Char) × Bytes)
  | byte :: rest =>
    if byte = 101 || byte = 69 then
      let (negative, rest) := readSign rest
      match takeDigits rest with
      | ([], _) => none
      | (digits, rest) => some (some (negative, digits), rest)
    else some (none, byte :: rest)
  | [] => some (none, [])

/-- Takes a number without its sign off the front. -/
def readNumber? (negative : Bool) (bytes : Bytes) : Option (Number × Bytes) := do
  let (whole, rest) ← readWhole? bytes
  let (fraction, rest) ← readFraction? rest
  let (exponent, rest) ← readExponent? rest
  return ({ negative, whole, fraction, exponent }, rest)

/-! ## Strings -/

/-- The value of a hexadecimal digit. -/
def hexDigit? (byte : UInt8) : Option Nat :=
  let n := byte.toNat
  if 48 ≤ n && n ≤ 57 then some (n - 48)
  else if 97 ≤ n && n ≤ 102 then some (n - 87)
  else if 65 ≤ n && n ≤ 70 then some (n - 55)
  else none

/-- Takes four hexadecimal digits off the front. -/
def readHex4? : Bytes → Option (Nat × Bytes)
  | a :: b :: c :: d :: rest => do
    let a ← hexDigit? a
    let b ← hexDigit? b
    let c ← hexDigit? c
    let d ← hexDigit? d
    return (((a * 16 + b) * 16 + c) * 16 + d, rest)
  | _ => none

/-- What a string holds so far, the latest octet first; nothing once it stands for no text. -/
abbrev Content := Option Bytes

/-- The content with some octets behind it. -/
def Content.push (content : Content) (bytes : Bytes) : Content :=
  content.map fun held => bytes.reverse ++ held

/-- The octet that a one-letter escape stands for. -/
def escaped? (byte : UInt8) : Option UInt8 :=
  if byte = 34 || byte = 92 || byte = 47 then some byte
  else if byte = 98 then some 8
  else if byte = 102 then some 12
  else if byte = 110 then some 10
  else if byte = 114 then some 13
  else if byte = 116 then some 9
  else none

/-- Code units that stand for a character only in pairs. -/
def isSurrogate (n : Nat) : Bool := 0xD800 ≤ n && n < 0xE000

/-- Takes the rest of a string with its closing quote off the front. -/
def readString? : Nat → Content → Bytes → Option (Option String × Bytes)
  | 0, _, _ => none
  | _ + 1, _, [] => none
  | _ + 1, content, 34 :: rest =>
    some (content.bind fun held => (Utf8.decode held.reverse).toOption, rest)
  | fuel + 1, content, 92 :: 117 :: rest => do
    let (n, rest) ← readHex4? rest
    if isSurrogate n then
      match rest with
      | 92 :: 117 :: rest' => do
        let (m, rest') ← readHex4? rest'
        -- A high and a low half are one character; the content of any other string is lost.
        if n < 0xDC00 && 0xDC00 ≤ m && m < 0xE000 then
          let c := Char.ofNat (0x10000 + (n - 0xD800) * 1024 + (m - 0xDC00))
          readString? fuel (content.push (Utf8.encodeChar c)) rest'
        else readString? fuel none rest
      | _ => readString? fuel none rest
    else readString? fuel (content.push (Utf8.encodeChar (Char.ofNat n))) rest
  | fuel + 1, content, 92 :: byte :: rest => do
    let byte ← escaped? byte
    readString? fuel (content.push [byte]) rest
  | fuel + 1, content, byte :: rest =>
    if byte.toNat < 32 then none else readString? fuel (content.push [byte]) rest

/-! ## Values -/

mutual

/-- Takes a value off the front. -/
def readValue? : Nat → Bytes → Option (Value × Bytes)
  | 0, _ => none
  | fuel + 1, bytes =>
    match skipSpace bytes with
    | 110 :: 117 :: 108 :: 108 :: rest => some (.null, rest)
    | 116 :: 114 :: 117 :: 101 :: rest => some (.boolean true, rest)
    | 102 :: 97 :: 108 :: 115 :: 101 :: rest => some (.boolean false, rest)
    | 34 :: rest => (readString? (rest.length + 1) (some []) rest).map fun (s, rest) => (.string s, rest)
    | 45 :: rest => (readNumber? true rest).map fun (n, rest) => (.number n, rest)
    | 91 :: rest =>
      match skipSpace rest with
      | 93 :: rest => some (.array [], rest)
      | rest => readItems? fuel [] rest
    | 123 :: rest =>
      match skipSpace rest with
      | 125 :: rest => some (.object [], rest)
      | rest => readMembers? fuel [] rest
    | rest => (readNumber? false rest).map fun (n, rest) => (.number n, rest)

/-- Takes the items of an array, of which there is at least one, off the front; `items` have been read, the
    latest first. -/
def readItems? : Nat → List Value → Bytes → Option (Value × Bytes)
  | 0, _, _ => none
  | fuel + 1, items, bytes =>
    match readValue? fuel bytes with
    | none => none
    | some (item, rest) =>
      match skipSpace rest with
      | 44 :: rest => readItems? fuel (item :: items) rest
      | 93 :: rest => some (.array (item :: items).reverse, rest)
      | _ => none

/-- Takes the members of an object, of which there is at least one, off the front; `members` have been
    read, the latest first. -/
def readMembers? : Nat → List (Option String × Value) → Bytes → Option (Value × Bytes)
  | 0, _, _ => none
  | fuel + 1, members, bytes =>
    match skipSpace bytes with
    | 34 :: rest =>
      match readString? (rest.length + 1) (some []) rest with
      | none => none
      | some (name, rest) =>
        match skipSpace rest with
        | 58 :: rest =>
          match readValue? fuel rest with
          | none => none
          | some (value, rest) =>
            match skipSpace rest with
            | 44 :: rest => readMembers? fuel ((name, value) :: members) rest
            | 125 :: rest => some (.object ((name, value) :: members).reverse, rest)
            | _ => none
        | _ => none
    | _ => none

end

/-- Reads an input that holds one value and nothing else. -/
def read? (bytes : Bytes) : Option Value :=
  match readValue? (2 * bytes.length + 2) bytes with
  | some (value, rest) => if skipSpace rest = [] then some value else none
  | none => none

end SegmentSync.Json
