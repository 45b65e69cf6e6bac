import SqlCluster.Proofs.Number.Row
import SqlCluster.Json.Reader
/-!
The texts of a tree by the standard's grammar: blanks wherever they may stand, every escape of a
character and every spelling of a number. A set of rules only bounds the digits of a number.
-/
namespace SqlCluster.Json

open Number Text

def Blanks (cs : List Char) : Prop := Within (isSpace · = true) cs

inductive UnitText (n : Nat) : List Char → Prop
  | mk {a b c d : Char} (h : unit? a b c d = some n) : UnitText n ['\\', 'u', a, b, c, d]

/-- How a character may stand in a text: as itself, as a short escape, or as one numbered escape or
two. -/
inductive CharForm (c : Char) : List Char → Prop
  | bare (h : 0x20 ≤ c.toNat) (hq : c ≠ '"') (hb : c ≠ '\\') : CharForm c [c]
  | short {e : Char} (h : shortEscape? e = some c) : CharForm c ['\\', e]
  | unit {us : List Char} (h : UnitText c.toNat us) : CharForm c us
  | pair {us vs : List Char} (hc : 0x10000 ≤ c.toNat)
      (hu : UnitText (0xD800 + (c.toNat - 0x10000) / 0x400) us)
      (hv : UnitText (0xDC00 + (c.toNat - 0x10000) % 0x400) vs) : CharForm c (us ++ vs)

inductive QuotedText (s : String) : List Char → Prop
  | mk {forms : List (List Char)} (h : List.Forall₂ CharForm s.toList forms) :
      QuotedText s ('"' :: (forms.flatten ++ ['"']))

structure IsWhole (cs : List Char) : Prop where
  row : IsRow cs
  ne_nil : cs ≠ []
  lead : cs.head? = some '0' → cs = ['0']

inductive FractionText : List Char → List Char → Prop
  | absent : FractionText [] []
  | present {ds : List Char} (h : IsRow ds) (hne : ds ≠ []) : FractionText ds ('.' :: ds)

inductive SignText : Bool → List Char → Prop
  | none : SignText false []
  | plus : SignText false ['+']
  | minus : SignText true ['-']

inductive ExponentText : Int → List Char → Prop
  | absent : ExponentText 0 []
  | present {e : Char} {negative : Bool} {ss ds : List Char} (he : e = 'e' ∨ e = 'E')
      (hs : SignText negative ss) (h : IsRow ds) (hne : ds ≠ []) :
      ExponentText (Double.withSign negative (rowValue ds)) (e :: (ss ++ ds))

/-- A number after its sign. One without fraction and exponent is an integer, any other the nearest
double. -/
inductive NumberText (rules : Rules) (negative : Bool) : Json → List Char → Prop
  | int {ws : List Char} (h : IsWhole ws) (hw : withinDigits rules ws.length = true) :
      NumberText rules negative (.int (Double.withSign negative (rowValue ws))) ws
  | float {ws ds fs es : List Char} {e : Int} (h : IsWhole ws)
      (hw : withinDigits rules ws.length = true) (hf : FractionText ds fs)
      (he : ExponentText e es) (hp : fs ≠ [] ∨ es ≠ []) :
      NumberText rules negative
        (.float (Double.ofDecimal negative (rowValue (ws ++ ds)) (e - ds.length)))
        (ws ++ (fs ++ es))

def minus (negative : Bool) : List Char := if negative then ['-'] else []

def wordOf (b : Bool) : List Char := if b then "true".toList else "false".toList

mutual

inductive TextOf (rules : Rules) : Json → List Char → Prop
  | null : TextOf rules .null "null".toList
  | bool {b : Bool} : TextOf rules (.bool b) (wordOf b)
  | number {negative : Bool} {j : Json} {cs : List Char} (h : NumberText rules negative j cs) :
      TextOf rules j (minus negative ++ cs)
  | text {s : String} {cs : List Char} (h : QuotedText s cs) : TextOf rules (.text s) cs
  | empty {b : List Char} (hb : Blanks b) : TextOf rules (.list []) ('[' :: (b ++ [']']))
  | list {x : Json} {xs : List Json} {texts : List (List Char)} (h : ItemTexts rules (x :: xs) texts) :
      TextOf rules (.list (x :: xs)) ('[' :: (joinWith [','] texts ++ [']']))
  | emptyMap {b : List Char} (hb : Blanks b) : TextOf rules (.map []) ('\x7b' :: (b ++ ['\x7d']))
  | map {m : String × Json} {ms : List (String × Json)} {texts : List (List Char)}
      (h : MemberTexts rules (m :: ms) texts) :
      TextOf rules (.map (m :: ms)) ('\x7b' :: (joinWith [','] texts ++ ['\x7d']))

inductive ItemTexts (rules : Rules) : List Json → List (List Char) → Prop
  | nil : ItemTexts rules [] []
  | cons {x : Json} {xs : List Json} {b cs a : List Char} {texts : List (List Char)}
      (hb : Blanks b) (h : TextOf rules x cs) (ha : Blanks a) (hs : ItemTexts rules xs texts) :
      ItemTexts rules (x :: xs) ((b ++ (cs ++ a)) :: texts)

inductive MemberTexts (rules : Rules) : List (String × Json) → List (List Char) → Prop
  | nil : MemberTexts rules [] []
  | cons {k : String} {x : Json} {ms : List (String × Json)} {b ks c d cs a : List Char}
      {texts : List (List Char)} (hb : Blanks b) (hk : QuotedText k ks) (hc : Blanks c)
      (hd : Blanks d) (h : TextOf rules x cs) (ha : Blanks a) (hs : MemberTexts rules ms texts) :
      MemberTexts rules ((k, x) :: ms) ((b ++ ((ks ++ (c ++ ':' :: (d ++ cs))) ++ a)) :: texts)

end

mutual

def nesting : Json → Nat
  | .list xs => nestingItems xs + 1
  | .map ms => nestingMembers ms + 1
  | _ => 0

def nestingItems : List Json → Nat
  | [] => 0
  | x :: xs => max (nesting x) (nestingItems xs)

def nestingMembers : List (String × Json) → Nat
  | [] => 0
  | (_, x) :: ms => max (nesting x) (nestingMembers ms)

end

theorem length_le_of_mem (sep : List Char) {texts : List (List Char)} {s : List Char}
    (h : s ∈ texts) : s.length ≤ (joinWith sep texts).length := by
  induction texts with
  | nil => cases h
  | cons t ts ih =>
      cases ts with
      | nil =>
          rw [List.mem_singleton.mp h]
          exact Nat.le_refl _
      | cons u us =>
          simp only [joinWith, List.length_append]
          rcases List.mem_cons.mp h with rfl | h
          · omega
          · have ih := ih h
            omega

theorem length_le_enclosed (sep : List Char) {texts : List (List Char)} (o c : Char) {s : List Char}
    (h : s ∈ texts) : s.length + 1 ≤ (o :: (joinWith sep texts ++ [c])).length := by
  have hle := length_le_of_mem sep h
  simp only [List.length_cons, List.length_append]
  omega

variable {rules : Rules}

mutual

theorem TextOf.nesting_le : ∀ {j : Json} {cs : List Char}, TextOf rules j cs → ∀ {m : Nat},
    cs.length ≤ m → nesting j ≤ m
  | _, _, .null, _, _ => Nat.zero_le _
  | _, _, .bool, _, _ => Nat.zero_le _
  | _, _, .number (.int _ _), _, _ => Nat.zero_le _
  | _, _, .number (.float _ _ _ _ _), _, _ => Nat.zero_le _
  | _, _, .text _, _, _ => Nat.zero_le _
  | _, _, .empty _, _, hm => Nat.le_trans (Nat.succ_le_succ (Nat.zero_le _)) hm
  | _, _, .list h, _, hm =>
      Nat.le_trans (Nat.succ_le_succ (h.nesting_le fun _ hs =>
        Nat.le_of_succ_le_succ (length_le_enclosed [','] '[' ']' hs))) hm
  | _, _, .emptyMap _, _, hm => Nat.le_trans (Nat.succ_le_succ (Nat.zero_le _)) hm
  | _, _, .map h, _, hm =>
      Nat.le_trans (Nat.succ_le_succ (h.nesting_le fun _ hs =>
        Nat.le_of_succ_le_succ (length_le_enclosed [','] '\x7b' '\x7d' hs))) hm

theorem ItemTexts.nesting_le : ∀ {xs : List Json} {texts : List (List Char)},
    ItemTexts rules xs texts → ∀ {m : Nat}, (∀ s ∈ texts, s.length ≤ m) → nestingItems xs ≤ m
  | _, _, .nil, _, _ => Nat.zero_le _
  | _, _, .cons _ h _ hs, m, hm => by
      rw [List.forall_mem_cons, List.length_append, List.length_append] at hm
      exact Nat.max_le.mpr ⟨h.nesting_le (by omega), hs.nesting_le hm.2⟩

theorem MemberTexts.nesting_le : ∀ {ms : List (String × Json)} {texts : List (List Char)},
    MemberTexts rules ms texts → ∀ {m : Nat}, (∀ s ∈ texts, s.length ≤ m) → nestingMembers ms ≤ m
  | _, _, .nil, _, _ => Nat.zero_le _
  | _, _, .cons _ _ _ _ h _ hs, m, hm => by
      simp only [List.forall_mem_cons, List.length_append, List.length_cons] at hm
      exact Nat.max_le.mpr ⟨h.nesting_le (by omega), hs.nesting_le hm.2⟩

end

theorem NumberText.of_short {negative : Bool} {j : Json} {cs : List Char}
    (h : NumberText .strict negative j cs)
    (hr : ∀ n ≤ cs.length, withinDigits rules n = true) : NumberText rules negative j cs := by
  cases h with
  | int h _ => exact .int h (hr _ (Nat.le_refl _))
  | float h _ hf he hp =>
      rw [List.length_append] at hr
      exact .float h (hr _ (Nat.le_add_right _ _)) hf he hp

mutual

theorem TextOf.of_short {m : Nat} (hr : ∀ n ≤ m, withinDigits rules n = true) :
    ∀ {j : Json} {cs : List Char}, TextOf .strict j cs → cs.length ≤ m → TextOf rules j cs
  | _, _, .null, _ => .null
  | _, _, .bool, _ => .bool
  | _, _, .number h, hm => by
      rw [List.length_append] at hm
      exact .number (h.of_short fun n hn => hr n (by omega))
  | _, _, .text h, _ => .text h
  | _, _, .empty hb, _ => .empty hb
  | _, _, .list h, hm => .list (h.of_short hr fun _ hs =>
      Nat.le_of_succ_le (Nat.le_trans (length_le_enclosed [','] '[' ']' hs) hm))
  | _, _, .emptyMap hb, _ => .emptyMap hb
  | _, _, .map h, hm => .map (h.of_short hr fun _ hs =>
      Nat.le_of_succ_le (Nat.le_trans (length_le_enclosed [','] '\x7b' '\x7d' hs) hm))

theorem ItemTexts.of_short {m : Nat} (hr : ∀ n ≤ m, withinDigits rules n = true) :
    ∀ {xs : List Json} {texts : List (List Char)}, ItemTexts .strict xs texts →
      (∀ s ∈ texts, s.length ≤ m) → ItemTexts rules xs texts
  | _, _, .nil, _ => .nil
  | _, _, .cons hb h ha hs, hm => by
      rw [List.forall_mem_cons, List.length_append, List.length_append] at hm
      exact .cons hb (h.of_short hr (by omega)) ha (hs.of_short hr hm.2)

theorem MemberTexts.of_short {m : Nat} (hr : ∀ n ≤ m, withinDigits rules n = true) :
    ∀ {ms : List (String × Json)} {texts : List (List Char)}, MemberTexts .strict ms texts →
      (∀ s ∈ texts, s.length ≤ m) → MemberTexts rules ms texts
  | _, _, .nil, _ => .nil
  | _, _, .cons hb hk hc hd h ha hs, hm => by
      simp only [List.forall_mem_cons, List.length_append, List.length_cons] at hm
      exact .cons hb hk hc hd (h.of_short hr (by omega)) ha (hs.of_short hr hm.2)

end

/-- The body is a text of the tree, within a server's bounds. -/
inductive BodyOf (j : Json) : List UInt8 → Prop
  | mk {b cs a : List Char} (hb : Blanks b) (h : TextOf .server j cs) (ha : Blanks a)
      (hd : nesting j ≤ maxDepth) : BodyOf j (Utf8.encode (b ++ (cs ++ a)))

end SqlCluster.Json
