import HostServices.Signal.Basic

/-!
# Tables with an entry for every signal

`get_set` says what each operation does to the view `get`, and `ext_get` that the view is all
there is to a table.
-/

namespace HostServices.Signal

@[ext] structure Table (α : Type) where
  cells : Vector α 31

namespace Table

variable {α : Type}

def all (a : α) : Table α := ⟨Vector.replicate 31 a⟩

def get (t : Table α) (s : Signal) : α := t.cells[s.index]

def set (t : Table α) (s : Signal) (a : α) : Table α := ⟨t.cells.set s.index a⟩

def modify (t : Table α) (s : Signal) (f : α → α) : Table α := t.set s (f (t.get s))

@[simp] theorem get_all (a : α) (s : Signal) : (all a).get s = a := by simp [all, get]

theorem get_set (t : Table α) (s u : Signal) (a : α) :
    (t.set s a).get u = if u = s then a else t.get u := by
  simp only [get, set, Fin.getElem_fin, Vector.getElem_set]
  split
  · next h => rw [if_pos (Signal.index_injective (Fin.ext h)).symm]
  · next h =>
    rw [if_neg]
    rintro rfl
    exact h rfl

@[simp] theorem get_set_self (t : Table α) (s : Signal) (a : α) : (t.set s a).get s = a := by
  simp [get_set]

theorem get_set_of_ne (t : Table α) {s u : Signal} (h : u ≠ s) (a : α) :
    (t.set s a).get u = t.get u := by simp [get_set, h]

@[simp] theorem set_get (t : Table α) (s : Signal) : t.set s (t.get s) = t := by
  simp [get, set]

theorem get_modify (t : Table α) (s u : Signal) (f : α → α) :
    (t.modify s f).get u = if u = s then f (t.get u) else t.get u := by
  rw [modify, get_set]
  split
  · next h => rw [h]
  · rfl

theorem exists_index (i : Fin 31) : ∃ s : Signal, s.index = i := by
  have : ∀ i : Fin 31, ∃ s ∈ Signal.all, s.index = i := by decide
  obtain ⟨s, _, h⟩ := this i
  exact ⟨s, h⟩

theorem ext_get {t u : Table α} (h : ∀ s, t.get s = u.get s) : t = u := by
  apply Table.ext
  apply Vector.ext
  intro i hi
  obtain ⟨s, hs⟩ := exists_index ⟨i, hi⟩
  have := h s
  simpa only [get, hs, Fin.getElem_fin] using this

end Table

end HostServices.Signal
