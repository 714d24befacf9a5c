import Mathlib

/-!
# Additive maps of bytes under exclusive or

A map of bytes that respects exclusive or is known from single bytes. Rows of a
circulant matrix over such maps collapse when four sums of them do, which leaves
statements about all 256 bytes; and what one step undoes, a run of steps in
reverse undoes as well.
-/

namespace LorawanServer.XorLinear

/-- What holds of the 256 bytes holds of every byte. -/
theorem forall_byte {p : UInt8 → Prop} (h : ∀ i : Fin 256,p (UInt8.ofFin i)) (x : UInt8) : p x := h x.toFin

/-- The map respects exclusive or. -/
def Additive (f : UInt8 → UInt8) : Prop := ∀ x y,f (x ^^^ y)=f x ^^^ f y

/-- Composition. -/
theorem Additive.comp {f g : UInt8 → UInt8} (hf : Additive f) (hg : Additive g) : Additive fun x => f (g x) := by
  intro x y
  dsimp only
  rw [hg x y,hf]

/-- The identity. -/
theorem additive_id : Additive fun x => x := fun _ _ => rfl

/-- Sums of two maps. -/
theorem Additive.xor {f g : UInt8 → UInt8} (hf : Additive f) (hg : Additive g) : Additive fun x => f x ^^^ g x := by
  intro x y
  dsimp only
  rw [hf x y,hg x y]
  ac_rfl

/-- A map that agrees with an additive one. -/
theorem Additive.congr {f g : UInt8 → UInt8} (hf : Additive f) (h : ∀ x,g x=f x) : Additive g := by
  intro x y
  rw [h,h,h]
  exact hf x y

/-- Four additive maps along a row of the circulant matrix of a doubling and a
tripling give back the first byte of the column. -/
theorem circulant_row {a b c d two three : UInt8 → UInt8} (ha : Additive a) (hb : Additive b) (hc : Additive c)
    (hd : Additive d) (h1 : ∀ x,a (two x) ^^^ b x ^^^ c x ^^^ d (three x)=x)
    (h2 : ∀ x,a (three x) ^^^ b (two x) ^^^ c x ^^^ d x=0)
    (h3 : ∀ x,a x ^^^ b (three x) ^^^ c (two x) ^^^ d x=0)
    (h4 : ∀ x,a x ^^^ b x ^^^ c (three x) ^^^ d (two x)=0) (p q r s : UInt8) :
    a (two p ^^^ three q ^^^ r ^^^ s) ^^^ b (p ^^^ two q ^^^ three r ^^^ s) ^^^
      c (p ^^^ q ^^^ two r ^^^ three s) ^^^ d (three p ^^^ q ^^^ r ^^^ two s)=p := by
  have hsum : a (two p ^^^ three q ^^^ r ^^^ s) ^^^ b (p ^^^ two q ^^^ three r ^^^ s) ^^^
      c (p ^^^ q ^^^ two r ^^^ three s) ^^^ d (three p ^^^ q ^^^ r ^^^ two s)=
      (a (two p) ^^^ b p ^^^ c p ^^^ d (three p)) ^^^ (a (three q) ^^^ b (two q) ^^^ c q ^^^ d q) ^^^
        (a r ^^^ b (three r) ^^^ c (two r) ^^^ d r) ^^^ (a s ^^^ b s ^^^ c (three s) ^^^ d (two s)) := by
    simp only [ha _ _,hb _ _,hc _ _,hd _ _]
    ac_rfl
  rw [hsum,h1,h2,h3,h4,UInt8.xor_zero,UInt8.xor_zero,UInt8.xor_zero]

/-- A run of steps is undone by the inverse steps in the reverse order. -/
theorem foldl_reverse_foldl {α β : Type*} {f g : α → β → α} (h : ∀ s r,g (f s r) r=s) (rounds : List β) (s : α) :
    rounds.reverse.foldl g (rounds.foldl f s)=s := by
  induction rounds generalizing s with
  | nil => rfl
  | cons r rounds ih =>
    have hc : (r::rounds).foldl f s=rounds.foldl f (f s r) := rfl
    rw [hc,List.reverse_cons,List.foldl_append,ih,List.foldl_cons,List.foldl_nil,h]

end LorawanServer.XorLinear
