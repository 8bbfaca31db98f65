import LeadingComment.Text.Utf8

namespace LeadingComment

structure Path where
  bytes : Bytes
deriving DecidableEq, Repr

namespace Path

def slash : UInt8 := 47
def dot : UInt8 := 46
def tilde : UInt8 := 126

def ofString (text : String) : Path := ⟨utf8 text⟩

/-- The text shown for a path; bytes that are no text are shown as U+FFFD. -/
def display (path : Path) : String := Utf8.decodeLossy path.bytes

def extendSegments (byte : UInt8) : List Bytes → List Bytes
  | [] => [[byte]]
  | segment :: segments =>
    if byte = slash then [] :: segment :: segments else (byte :: segment) :: segments

def segmentsOf (bytes : Bytes) : List Bytes := bytes.foldr extendSegments [[]]

def joinSegments (segments : List Bytes) : Bytes := List.intercalate [slash] segments

theorem segmentsOf_ne_nil (bytes : Bytes) : segmentsOf bytes ≠ [] := by
  cases bytes with
  | nil => simp [segmentsOf]
  | cons byte bytes =>
    rw [segmentsOf, List.foldr_cons]
    cases List.foldr extendSegments [[]] bytes with
    | nil => simp [extendSegments]
    | cons segment segments => simp only [extendSegments]; split <;> simp

theorem joinSegments_segmentsOf (bytes : Bytes) : joinSegments (segmentsOf bytes) = bytes := by
  induction bytes with
  | nil => rfl
  | cons byte bytes hyp =>
    rw [segmentsOf, List.foldr_cons, ← segmentsOf]
    cases parts : segmentsOf bytes with
    | nil => exact absurd parts (segmentsOf_ne_nil bytes)
    | cons segment segments =>
      rw [parts] at hyp
      simp only [extendSegments]
      split
      next same => subst same; simpa [joinSegments, List.intercalate] using hyp
      next => cases segments <;> simpa [joinSegments, List.intercalate] using hyp

/-- Empty segments and `.` lead nowhere. -/
def isIdle (segment : Bytes) : Bool := segment == [] || segment == [dot]

def isAbsolute (path : Path) : Bool := path.bytes.head? == some slash

/-- Whether the path starts at the root, and the names on the way. -/
def components (path : Path) : Bool × List Bytes :=
  (path.isAbsolute, (segmentsOf path.bytes).filter fun segment => !isIdle segment)

/-- An absolute right side replaces the left one; a slash is added only where one is missing. -/
def join (base rest : Path) : Path :=
  if rest.isAbsolute then rest
  else if base.bytes.isEmpty || base.bytes.getLast? == some slash then ⟨base.bytes ++ rest.bytes⟩
  else ⟨base.bytes ++ slash :: rest.bytes⟩

/-- Segments without the idle ones at either end; those inside stay. -/
def withoutIdleEnds (segments : List Bytes) : List Bytes :=
  ((segments.dropWhile isIdle).reverse.dropWhile isIdle).reverse

/-- Only `~` alone or `~/…` names the home directory. -/
def expandHome (path : Path) (home : Option Path) : Path :=
  match home, segmentsOf path.bytes with
  | some home, first :: later =>
    if first = [tilde] then
      match joinSegments (withoutIdleEnds later) with
      | [] => home
      | rest => home.join ⟨rest⟩
    else path
  | _, _ => path

def resolve (path directory : Path) (home : Option Path) : Path :=
  let expanded := path.expandHome home
  if expanded.isAbsolute then expanded else directory.join expanded

end Path
end LeadingComment
