import Mathlib.Data.List.Basic
import Mathlib.Tactic.Common

/-!
# Lists of elements with an identifier and a length

An element is an identifier, a length below 256 and as many bytes.  Every byte string is a list of
whole elements and a tail that is not one.  A walk over the bytes that stops at such a tail is a
fold over the elements.
-/

namespace InfoElements

/-- An element, whose length fits a byte. -/
structure Element where
  id : UInt8
  body : List UInt8
  short : body.length < 256

namespace Element

/-- The bytes of an element. -/
def encode (element : Element) : List UInt8 :=
  element.id :: UInt8.ofNat element.body.length :: element.body

@[simp]
theorem length_encode (element : Element) : element.encode.length = 2 + element.body.length := by
  simp only [encode, List.length_cons]
  omega

/-- The length byte tells how long the body is. -/
theorem toNat_length (element : Element) :
    (UInt8.ofNat element.body.length).toNat = element.body.length := by
  rw [UInt8.toNat_ofNat']
  exact Nat.mod_eq_of_lt element.short

end Element

/-- The bytes of a list of elements. -/
def encodeAll (elements : List Element) : List UInt8 :=
  elements.flatMap Element.encode

@[simp]
theorem encodeAll_nil : encodeAll [] = [] := rfl

@[simp]
theorem encodeAll_cons (element : Element) (elements : List Element) :
    encodeAll (element :: elements) = element.encode ++ encodeAll elements := rfl

theorem encodeAll_append (elements others : List Element) :
    encodeAll (elements ++ others) = encodeAll elements ++ encodeAll others :=
  List.flatMap_append

/-- These bytes do not start with a whole element. -/
def Truncated (bytes : List UInt8) : Prop :=
  bytes.length < 2 ∨ bytes.length < 2 + (bytes.getD 1 0).toNat

theorem truncated_nil : Truncated [] :=
  .inl (Nat.zero_lt_succ 1)

/-- What is not truncated starts with an element. -/
theorem exists_encode {bytes : List UInt8} (whole : ¬ Truncated bytes) :
    ∃ (element : Element) (rest : List UInt8), bytes = element.encode ++ rest := by
  match bytes, whole with
  | [], whole => exact absurd truncated_nil whole
  | [_], whole => exact absurd (.inl (by simp)) whole
  | id :: length :: rest, whole =>
      have inside : length.toNat ≤ rest.length := by
        simp only [Truncated, List.length_cons, List.getD_cons_succ, List.getD_cons_zero,
          not_or] at whole
        omega
      have taken : (rest.take length.toNat).length = length.toNat := List.length_take_of_le inside
      refine ⟨⟨id, rest.take length.toNat, ?_⟩, rest.drop length.toNat, ?_⟩
      · rw [taken]
        exact length.toNat_lt
      · simp only [Element.encode, taken, UInt8.ofNat_toNat, List.cons_append,
          List.take_append_drop]

/-- Every byte string is a list of whole elements and a truncated tail. -/
theorem exists_split (bytes : List UInt8) :
    ∃ (elements : List Element) (tail : List UInt8), Truncated tail ∧
      bytes = encodeAll elements ++ tail := by
  by_cases ended : Truncated bytes
  · exact ⟨[], bytes, ended, rfl⟩
  · obtain ⟨element, rest, rfl⟩ := exists_encode ended
    have shorter : rest.length < (element.encode ++ rest).length := by
      rw [List.length_append, Element.length_encode]
      omega
    obtain ⟨elements, tail, truncated, rfl⟩ := exists_split rest
    exact ⟨element :: elements, tail, truncated, by rw [encodeAll_cons, List.append_assoc]⟩
termination_by bytes.length

theorem length_le_encodeAll (elements : List Element) :
    elements.length ≤ (encodeAll elements).length := by
  induction elements with
  | nil => exact Nat.le_refl 0
  | cons element elements ih =>
      rw [encodeAll_cons, List.length_append, Element.length_encode, List.length_cons]
      omega

/-! ## Walks -/

/-- A walk with fuel stops at a truncated tail, and takes one step at an element. -/
structure Walks {σ : Type} (walk : Nat → List UInt8 → σ → σ) (step : σ → Element → σ) : Prop where
  stop : ∀ fuel tail state, Truncated tail → walk (fuel + 1) tail state = state
  next : ∀ fuel element rest state,
    walk (fuel + 1) (element.encode ++ rest) state = walk fuel rest (step state element)

/-- A walk is a fold over the elements. -/
theorem Walks.eq_foldl {σ : Type} {walk : Nat → List UInt8 → σ → σ} {step : σ → Element → σ}
    (walks : Walks walk step) {elements : List Element} {tail : List UInt8}
    (truncated : Truncated tail) {fuel : Nat} (enough : elements.length < fuel) (state : σ) :
    walk fuel (encodeAll elements ++ tail) state = elements.foldl step state := by
  induction elements generalizing fuel state with
  | nil =>
      obtain ⟨fuel, rfl⟩ := Nat.exists_eq_add_one.mpr enough
      exact walks.stop fuel tail state truncated
  | cons element elements ih =>
      obtain ⟨fuel, rfl⟩ := Nat.exists_eq_add_one.mpr (Nat.zero_lt_of_lt enough)
      rw [encodeAll_cons, List.append_assoc, walks.next]
      exact ih (Nat.lt_of_succ_lt_succ enough) _

/-- A walk that stops at the first element that decides it, for a result or against one. -/
structure Decides {β : Type} (walk : Nat → List UInt8 → Option β)
    (decided : Element → Option (Option β)) : Prop where
  stop : ∀ fuel tail, Truncated tail → walk (fuel + 1) tail = none
  next : ∀ fuel element rest,
    walk (fuel + 1) (element.encode ++ rest) = (decided element).getD (walk fuel rest)

/-- Such a walk is decided by the first element that decides it. -/
theorem Decides.eq_findSome {β : Type} {walk : Nat → List UInt8 → Option β}
    {decided : Element → Option (Option β)} (decides : Decides walk decided)
    {elements : List Element} {tail : List UInt8} (truncated : Truncated tail) {fuel : Nat}
    (enough : elements.length < fuel) :
    walk fuel (encodeAll elements ++ tail) = (elements.findSome? decided).join := by
  induction elements generalizing fuel with
  | nil =>
      obtain ⟨fuel, rfl⟩ := Nat.exists_eq_add_one.mpr enough
      exact decides.stop fuel tail truncated
  | cons element elements ih =>
      obtain ⟨fuel, rfl⟩ := Nat.exists_eq_add_one.mpr (Nat.zero_lt_of_lt enough)
      rw [encodeAll_cons, List.append_assoc, decides.next, List.findSome?_cons,
        ih (Nat.lt_of_succ_lt_succ enough)]
      cases decided element <;> rfl

/-- A walk that stops at the first element that is wanted. -/
structure Finds {β : Type} (walk : Nat → List UInt8 → Option β) (found : Element → Option β) :
    Prop where
  stop : ∀ fuel tail, Truncated tail → walk (fuel + 1) tail = none
  next : ∀ fuel element rest,
    walk (fuel + 1) (element.encode ++ rest) = (found element).or (walk fuel rest)

/-- Nothing decides such a walk against a result. -/
theorem Finds.decides {β : Type} {walk : Nat → List UInt8 → Option β}
    {found : Element → Option β} (finds : Finds walk found) :
    Decides walk fun element => (found element).map some := by
  refine ⟨finds.stop, fun fuel element rest => ?_⟩
  rw [finds.next]
  cases found element <;> rfl

/-- Such a walk finds the first element that is wanted. -/
theorem Finds.eq_findSome {β : Type} {walk : Nat → List UInt8 → Option β}
    {found : Element → Option β} (finds : Finds walk found) {elements : List Element}
    {tail : List UInt8} (truncated : Truncated tail) {fuel : Nat}
    (enough : elements.length < fuel) :
    walk fuel (encodeAll elements ++ tail) = elements.findSome? found := by
  have mapped : elements.findSome? (fun element => (found element).map some) =
      (elements.findSome? found).map some := List.map_findSome?.symm
  rw [finds.decides.eq_findSome truncated enough, mapped]
  cases elements.findSome? found <;> rfl

end InfoElements
