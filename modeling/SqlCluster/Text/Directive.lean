import SqlCluster.Text.Digit
/-!
Message patterns. A percent sign opens a directive: flags, a width, a precision and a letter that
says what the next argument is written as. A width or a precision may be an argument itself, and a
size letter `h`, `l` or `L` is passed over. Nothing behind a broken directive is read.
-/
namespace SqlCluster.Text

structure Flags where
  left : Bool
  plus : Bool
  blank : Bool
  alternate : Bool
  zeros : Bool
  deriving DecidableEq, Repr

def Flags.none : Flags := ⟨false, false, false, false, false⟩

inductive Extent where
  | unset
  | given (n : Nat)
  | argument
  deriving DecidableEq, Repr

inductive DirectiveError where
  | named
  | widthTooBig
  | precisionTooBig
  | unfinished
  deriving DecidableEq, Repr

inductive Ending where
  | letter (c : Char) (position : Nat)
  | broken (e : DirectiveError)
  deriving DecidableEq, Repr

structure Directive where
  flags : Flags
  width : Extent
  precision : Extent
  ending : Ending
  deriving DecidableEq, Repr

inductive Piece where
  | literal (c : Char)
  | directive (d : Directive)
  deriving DecidableEq, Repr

namespace Directive

def mostWidth : Nat := Nat.pow 2 63 - 1

def mostPrecision : Nat := Nat.pow 2 31 - 1

def flag? : Char → Option (Flags → Flags)
  | '-' => some fun f => { f with left := true }
  | '+' => some fun f => { f with plus := true }
  | ' ' => some fun f => { f with blank := true }
  | '#' => some fun f => { f with alternate := true }
  | '0' => some fun f => { f with zeros := true }
  | _ => none

def readFlags (f : Flags) : List Char → Flags × List Char
  | [] => (f, [])
  | c :: cs => match flag? c with
      | some set => readFlags (set f) cs
      | none => (f, c :: cs)

def readNumber? (most n : Nat) : List Char → Option (Nat × List Char)
  | [] => some (n, [])
  | c :: cs => match asciiValue? c with
      | some d => if most < n * 10 + d then none else readNumber? most (n * 10 + d) cs
      | none => some (n, c :: cs)

def readExtent? (most : Nat) : List Char → Option (Extent × List Char)
  | [] => some (.unset, [])
  | c :: cs =>
      if c = '*' then some (.argument, cs)
      else match asciiValue? c with
        | some d => (readNumber? most d cs).map fun r => (.given r.1, r.2)
        | none => some (.unset, c :: cs)

/-- A point alone is the precision zero. -/
def readPrecision? : List Char → Option (Extent × List Char)
  | '.' :: cs => (readExtent? mostPrecision cs).map fun r =>
      (if r.1 = .unset then .given 0 else r.1, r.2)
  | cs => some (.unset, cs)

def dropSize : List Char → List Char
  | [] => []
  | c :: cs => if c = 'h' ∨ c = 'l' ∨ c = 'L' then cs else c :: cs

def read (length : Nat) : List Char → Directive × List Char
  | '(' :: _ => (⟨.none, .unset, .unset, .broken .named⟩, [])
  | cs =>
      let f := readFlags .none cs
      match readExtent? mostWidth f.2 with
      | none => (⟨f.1, .unset, .unset, .broken .widthTooBig⟩, [])
      | some w => match readPrecision? w.2 with
          | none => (⟨f.1, w.1, .unset, .broken .precisionTooBig⟩, [])
          | some p => match dropSize p.2 with
              | [] => (⟨f.1, w.1, p.1, .broken .unfinished⟩, [])
              | c :: rest => (⟨f.1, w.1, p.1, .letter c (length - rest.length - 1)⟩, rest)

theorem length_readFlags (f : Flags) (cs : List Char) :
    (readFlags f cs).2.length ≤ cs.length := by
  induction cs generalizing f with
  | nil => simp [readFlags]
  | cons c cs ih =>
      simp only [readFlags]
      split
      · exact Nat.le_succ_of_le (ih _)
      · simp

theorem length_readNumber? {most n : Nat} {cs : List Char} {r : Nat × List Char}
    (h : readNumber? most n cs = some r) : r.2.length ≤ cs.length := by
  induction cs generalizing n with
  | nil => simp only [readNumber?, Option.some.injEq] at h; simp [← h]
  | cons c cs ih =>
      simp only [readNumber?] at h
      split at h
      · split at h
        · simp at h
        · exact Nat.le_succ_of_le (ih h)
      · simp only [Option.some.injEq] at h; simp [← h]

theorem length_readExtent? {most : Nat} {cs : List Char} {r : Extent × List Char}
    (h : readExtent? most cs = some r) : r.2.length ≤ cs.length := by
  cases cs with
  | nil => simp only [readExtent?, Option.some.injEq] at h; simp [← h]
  | cons c cs =>
      simp only [readExtent?] at h
      split at h
      · simp only [Option.some.injEq] at h; simp [← h]
      · split at h
        · obtain ⟨q, hq, rfl⟩ := Option.map_eq_some_iff.1 h
          exact Nat.le_succ_of_le (length_readNumber? (r := q) hq)
        · simp only [Option.some.injEq] at h; simp [← h]

theorem length_readPrecision? {cs : List Char} {r : Extent × List Char}
    (h : readPrecision? cs = some r) : r.2.length ≤ cs.length := by
  simp only [readPrecision?] at h
  split at h
  · obtain ⟨q, hq, rfl⟩ := Option.map_eq_some_iff.1 h
    exact Nat.le_succ_of_le (length_readExtent? (r := q) hq)
  · simp only [Option.some.injEq] at h; simp [← h]

theorem length_dropSize (cs : List Char) : (dropSize cs).length ≤ cs.length := by
  cases cs with
  | nil => simp [dropSize]
  | cons c cs => simp only [dropSize]; split <;> simp

theorem length_read (length : Nat) (cs : List Char) : (read length cs).2.length ≤ cs.length := by
  simp only [read]
  split
  · simp
  · split
    · simp
    · next w hw =>
        split
        · simp
        · next p hp =>
            have hf := length_readFlags .none cs
            have he := length_readExtent? hw
            have hr := length_readPrecision? hp
            have hs := length_dropSize p.2
            split
            · simp
            · next c rest hd => rw [hd] at hs; simp only [List.length_cons] at hs; simp only; omega

end Directive

def piecesOf (length : Nat) (cs : List Char) : List Piece :=
  match cs with
  | [] => []
  | c :: cs =>
      if c = '%' then
        .directive (Directive.read length cs).1 :: piecesOf length (Directive.read length cs).2
      else .literal c :: piecesOf length cs
termination_by cs.length
decreasing_by
  · exact Nat.lt_succ_of_le (Directive.length_read _ _)
  · simp

def pieces (pattern : List Char) : List Piece := piecesOf pattern.length pattern

end SqlCluster.Text
