import SqlCluster.Proofs.Text.Within
import SqlCluster.Text.Quoted
/-!
Texts with gaps, every one of them filled with the same word. A text with a gap gives the word away.
-/
namespace SqlCluster.Text

def isWordChar (c : Char) : Bool := isAsciiLetter c || isAsciiDigit c

structure Word where
  chars : List Char
  chars_ne : chars ≠ []
  isWord : Within (isWordChar · = true) chars

theorem Word.ext {v w : Word} (h : v.chars = w.chars) : v = w := by
  cases v
  cases w
  cases h
  rfl

theorem isWordChar_spec {c : Char} (h : isWordChar c = true) :
    IsPlain c ∧ c ≠ '\'' ∧ c ≠ '"' ∧ c ≠ '\\' :=
  of_ascii (P := fun c => isWordChar c = true → IsPlain c ∧ c ≠ '\'' ∧ c ≠ '"' ∧ c ≠ '\\')
    (by decide +kernel)
    (by
      rw [isWordChar, Bool.or_eq_true] at h
      exact h.elim lt_of_isAsciiLetter lt_of_isAsciiDigit) h

theorem joinWith_glue (sep : List Char) (as : List (List Char)) (a b : List Char)
    (bs : List (List Char)) :
    joinWith sep (as ++ (a ++ b) :: bs) = joinWith sep (as ++ [a]) ++ joinWith sep (b :: bs) := by
  induction as with
  | nil =>
      cases bs with
      | nil => rfl
      | cons c cs => simp only [List.nil_append, joinWith, List.append_assoc]
  | cons d ds ih =>
      cases ds with
      | nil =>
          simp only [List.nil_append, List.cons_append, joinWith, List.append_assoc] at ih ⊢
          rw [ih]
      | cons e es =>
          simp only [List.cons_append, joinWith, List.append_assoc] at ih ⊢
          rw [ih]

theorem joinWith_map {f : List Char → List Char} (happ : ∀ cs ds, f (cs ++ ds) = f cs ++ f ds)
    {sep : List Char} (hsep : f sep = sep) {pieces : List (List Char)} (hne : pieces ≠ []) :
    f (joinWith sep pieces) = joinWith sep (pieces.map f) := by
  induction pieces with
  | nil => exact absurd rfl hne
  | cons a as ih =>
      cases as with
      | nil => rfl
      | cons b bs =>
          have ih := ih (List.cons_ne_nil b bs)
          simp only [joinWith, List.map_cons, happ, hsep] at ih ⊢
          rw [ih]

theorem mem_joinWith {sep : List Char} {c : Char} (hc : c ∉ sep) {pieces : List (List Char)} :
    c ∈ joinWith sep pieces ↔ ∃ a ∈ pieces, c ∈ a := by
  induction pieces with
  | nil => simp [joinWith]
  | cons a as ih =>
      cases as with
      | nil => simp [joinWith]
      | cons b bs =>
          simp only [joinWith, List.mem_append, ih, List.mem_cons, exists_eq_or_imp]
          simp only [hc, or_false]

theorem length_joinWith (a : List Char) (as : List (List Char)) :
    ∃ n, ∀ sep, (joinWith sep (a :: as)).length = as.length * sep.length + n := by
  induction as generalizing a with
  | nil => exact ⟨a.length, fun sep => by simp [joinWith]⟩
  | cons b bs ih =>
      obtain ⟨n, hn⟩ := ih b
      refine ⟨a.length + n, ?_⟩
      intro sep
      simp only [joinWith, List.length_append, hn, List.length_cons, Nat.succ_mul]
      omega

/-- The text has `n` gaps, which the word fills. -/
def Filled (n : Nat) (f : Word → List Char) : Prop :=
  ∃ pieces : List (List Char), pieces.length = n + 1 ∧ ∀ w, f w = joinWith w.chars pieces

namespace Filled

variable {m n : Nat} {f g : Word → List Char}

theorem const (cs : List Char) : Filled 0 fun _ => cs := ⟨[cs], rfl, fun _ => rfl⟩

theorem gap : Filled 1 Word.chars :=
  ⟨[[], []], rfl, fun w => by simp only [joinWith, List.nil_append, List.append_nil]⟩

theorem append (hf : Filled m f) (hg : Filled n g) : Filled (m + n) fun w => f w ++ g w := by
  obtain ⟨as, has, hf⟩ := hf
  obtain ⟨bs, hbs, hg⟩ := hg
  obtain ⟨as, a, rfl⟩ : ∃ ds d, as = ds ++ [d] :=
    ⟨as.dropLast, as.getLast (List.ne_nil_of_length_eq_add_one has),
      (List.dropLast_concat_getLast _).symm⟩
  obtain ⟨b, bs, rfl⟩ := List.exists_cons_of_length_eq_add_one hbs
  refine ⟨as ++ (a ++ b) :: bs, ?_, ?_⟩
  · simp only [List.length_append, List.length_cons, List.length_nil] at has hbs ⊢
    omega
  · intro w
    simp only [hf, hg, joinWith_glue]

theorem cons (c : Char) (hf : Filled n f) : Filled n fun w => c :: f w := by
  have h := (const [c]).append hf
  rwa [Nat.zero_add] at h

theorem between (hf : Filled n f) (cs ds : List Char) : Filled n fun w => cs ++ f w ++ ds := by
  have h := ((const cs).append hf).append (const ds)
  rwa [Nat.zero_add] at h

theorem flatMap {h : Char → List Char} (hw : ∀ c, isWordChar c = true → h c = [c])
    (hf : Filled n f) : Filled n fun w => (f w).flatMap h := by
  obtain ⟨as, has, hf⟩ := hf
  have hne : as ≠ [] := List.ne_nil_of_length_eq_add_one has
  have hword : ∀ w : Word, w.chars.flatMap h = w.chars := by
    intro w
    have hone : ∀ c ∈ w.chars, h c = [c] := fun c hc => hw c (w.isWord c hc)
    rw [List.flatMap_congr hone, List.flatMap_singleton']
  refine ⟨as.map (·.flatMap h), by rw [List.length_map, has], ?_⟩
  intro w
  simp only [hf]
  exact joinWith_map (fun _ _ => List.flatMap_append) (hword w) hne

theorem contains_eq {c : Char} (hc : isWordChar c = false) (hf : Filled n f) :
    ∃ b, ∀ w, (f w).contains c = b := by
  obtain ⟨as, -, hf⟩ := hf
  refine ⟨as.any fun a => a.contains c, ?_⟩
  intro w
  have hw : c ∉ w.chars := w.isWord.not_mem (by simp [hc])
  rw [hf, Bool.eq_iff_iff, List.contains_iff_mem, mem_joinWith hw, List.any_eq_true]
  simp only [List.contains_iff_mem]

theorem escape_of_isWordChar {q c : Char} (hq : q = '\'' ∨ q = '"') (hc : isWordChar c = true) :
    Quoted.escape q c = [c] := by
  obtain ⟨hp, hs, hd, hb⟩ := isWordChar_spec hc
  have hcq : c ≠ q := by
    rcases hq with h | h <;> rw [h] <;> assumption
  have hn : c ≠ '\n' ∧ c ≠ '\r' ∧ c ≠ '\t' :=
    IsPlain.of_ascii (P := fun c => c ≠ '\n' ∧ c ≠ '\r' ∧ c ≠ '\t') (by decide +kernel) hp
  simp only [Quoted.escape, hcq, hb, hn.1, hn.2.1, hn.2.2, isPrintable_ascii hp.1 hp.2, or_false,
    if_false, if_true]

theorem quoted (hf : Filled n f) : Filled n fun w => Quoted.quoteChars (f w) := by
  obtain ⟨single, hs⟩ := hf.contains_eq (c := '\'') (by decide)
  obtain ⟨double, hd⟩ := hf.contains_eq (c := '"') (by decide)
  have hq : Quoted.enclosing single double = '\'' ∨ Quoted.enclosing single double = '"' := by
    cases single <;> cases double <;> decide
  have h := (hf.flatMap fun c hc => escape_of_isWordChar hq hc).between
    [Quoted.enclosing single double] [Quoted.enclosing single double]
  simp only [Quoted.quoteChars, hs, hd]
  exact h

theorem inj (hf : Filled (n + 1) f) {v w : Word} (h : f v = f w) : v = w := by
  obtain ⟨as, has, hf⟩ := hf
  obtain ⟨a, as, rfl⟩ := List.exists_cons_of_length_eq_add_one has
  obtain ⟨b, bs, rfl⟩ := List.exists_cons_of_length_eq_add_one (Nat.succ.inj has)
  rw [hf, hf] at h
  have hlen : v.chars.length = w.chars.length := by
    have hl := congrArg List.length h
    obtain ⟨n, hn⟩ := length_joinWith a (b :: bs)
    rw [hn, hn] at hl
    have hk : (b :: bs).length * v.chars.length = (b :: bs).length * w.chars.length := by omega
    exact Nat.eq_of_mul_eq_mul_left (Nat.succ_pos _) hk
  simp only [joinWith, List.append_assoc] at h
  exact Word.ext (List.append_inj (List.append_cancel_left h) hlen).1

end Filled

end SqlCluster.Text
