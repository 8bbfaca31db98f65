/-! UTF-8 between bytes and characters. A byte at a time, `feed` follows the table of well-formed
sequences; `decode?` accepts bytes that are well formed throughout, `splitValid` keeps the longest
well-formed start, and `decodeLossy` writes U+FFFD for every maximal part that belongs to no
character. -/
namespace LeadingComment

abbrev Bytes := List UInt8

namespace Utf8

def trailing (value : Nat) : UInt8 := UInt8.ofNat (0x80 + value % 0x40)

def encodeChar (char : Char) : Bytes :=
  let code := char.toNat
  if code < 0x80 then [UInt8.ofNat code]
  else if code < 0x800 then [UInt8.ofNat (0xC0 + code / 0x40), trailing code]
  else if code < 0x10000 then
    [UInt8.ofNat (0xE0 + code / 0x1000), trailing (code / 0x40), trailing code]
  else
    [UInt8.ofNat (0xF0 + code / 0x40000), trailing (code / 0x1000), trailing (code / 0x40),
      trailing code]

def encode (chars : List Char) : Bytes := chars.flatMap encodeChar

/-- A character whose first bytes have been read. The next byte must lie between `low` and `high`,
and `later` more must follow it. -/
structure Partial where
  code : Nat
  later : Nat
  low : Nat := 0x80
  high : Nat := 0xBF

inductive Feed where
  | char (char : Char)
  | more (begun : Partial)
  | broken

/-- Only the second byte has a range of its own: it excludes overlong forms after E0 and F0,
surrogates after ED, and codes above U+10FFFF after F4. -/
def begin? (first : Nat) : Option Partial :=
  if 0xC2 ≤ first ∧ first < 0xE0 then some { code := first - 0xC0, later := 0 }
  else if 0xE0 ≤ first ∧ first < 0xF0 then
    some { code := first - 0xE0, later := 1
           low := if first = 0xE0 then 0xA0 else 0x80
           high := if first = 0xED then 0x9F else 0xBF }
  else if 0xF0 ≤ first ∧ first < 0xF5 then
    some { code := first - 0xF0, later := 2
           low := if first = 0xF0 then 0x90 else 0x80
           high := if first = 0xF4 then 0x8F else 0xBF }
  else none

def feed (begun : Option Partial) (byte : UInt8) : Feed :=
  match begun with
  | none =>
    if byte.toNat < 0x80 then .char (Char.ofNat byte.toNat)
    else match begin? byte.toNat with
      | some next => .more next
      | none => .broken
  | some begun =>
    if begun.low ≤ byte.toNat ∧ byte.toNat ≤ begun.high then
      let code := begun.code * 0x40 + (byte.toNat - 0x80)
      match begun.later with
      | 0 => .char (Char.ofNat code)
      | later + 1 => .more { code, later }
    else .broken

/-- `start` holds the bytes from the first byte of the character that `begun` has begun. -/
def splitFrom (begun : Option Partial) (earlier : List Char) (start : Bytes) :
    Bytes → List Char × Bytes
  | [] => (earlier.reverse, start)
  | byte :: bytes =>
    match feed begun byte with
    | .char char => splitFrom none (char :: earlier) bytes bytes
    | .more next => splitFrom (some next) earlier start bytes
    | .broken => (earlier.reverse, start)

/-- The characters of the longest well-formed start, and the bytes after it. -/
def splitValid (bytes : Bytes) : List Char × Bytes := splitFrom none [] bytes bytes

def decode? (bytes : Bytes) : Option (List Char) :=
  match splitValid bytes with
  | (chars, []) => some chars
  | (_, _ :: _) => none

def replacement : Char := Char.ofNat 0xFFFD

def lossyFrom (begun : Option Partial) (earlier : List Char) : Bytes → List Char
  | [] => (if begun.isSome then replacement :: earlier else earlier).reverse
  | byte :: bytes =>
    match feed begun byte with
    | .char char => lossyFrom none (char :: earlier) bytes
    | .more next => lossyFrom (some next) earlier bytes
    | .broken =>
      -- A byte that ends a begun character without completing it may begin the next one.
      let reread := if begun.isSome then feed none byte else .broken
      match reread with
      | .char char => lossyFrom none (char :: replacement :: earlier) bytes
      | .more next => lossyFrom (some next) (replacement :: earlier) bytes
      | .broken =>
        lossyFrom none (if begun.isSome then replacement :: replacement :: earlier
          else replacement :: earlier) bytes

def decodeLossy (bytes : Bytes) : String := String.ofList (lossyFrom none [] bytes)

end Utf8

def utf8 (text : String) : Bytes := Utf8.encode text.toList

theorem utf8_append (first second : String) : utf8 (first ++ second) = utf8 first ++ utf8 second := by
  simp [utf8, Utf8.encode]

theorem utf8_join (texts : List String) : utf8 (String.join texts) = texts.flatMap utf8 := by
  induction texts with
  | nil => rfl
  | cons text texts hyp => rw [String.join_cons, utf8_append, hyp, List.flatMap_cons]

end LeadingComment
