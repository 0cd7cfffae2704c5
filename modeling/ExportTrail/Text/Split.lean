/-!
# Splitting text at a separator

`split` cuts a list of characters at every occurrence of a separator and `join` puts the stretches
together again, so that nothing is lost (`join_split`). A text without the separator is one stretch
(`split_of_not_mem`).
-/

namespace ExportTrail.Text

/-- The stretches of a text between the separators; there is always at least one. -/
def split (sep : Char) : List Char → List (List Char)
  | [] => [[]]
  | c :: s =>
    if c = sep then [] :: split sep s
    else match split sep s with
      | [] => [[c]]
      | w :: ws => (c :: w) :: ws

/-- The stretches with a separator between any two neighbours. -/
def join (sep : Char) : List (List Char) → List Char
  | [] => []
  | [w] => w
  | w :: v :: ws => w ++ sep :: join sep (v :: ws)

theorem split_ne_nil (sep : Char) (s : List Char) : split sep s ≠ [] := by
  cases s with
  | nil => simp [split]
  | cons c s =>
    rw [split]
    split
    · simp
    · split <;> simp

theorem join_cons_cons (sep c : Char) (w : List Char) (ws : List (List Char)) :
    join sep ((c :: w) :: ws) = c :: join sep (w :: ws) := by
  cases ws <;> simp [join]

/-- Nothing is lost by splitting. -/
theorem join_split (sep : Char) (s : List Char) : join sep (split sep s) = s := by
  induction s with
  | nil => rfl
  | cons c s ih =>
    rw [split]
    split
    · next h =>
      obtain ⟨w, ws, e⟩ := List.exists_cons_of_ne_nil (split_ne_nil sep s)
      rw [e] at ih ⊢
      simp [join, ih, h]
    · obtain ⟨w, ws, e⟩ := List.exists_cons_of_ne_nil (split_ne_nil sep s)
      rw [e] at ih ⊢
      simp only
      rw [join_cons_cons, ih]

/-- No stretch holds the separator. -/
theorem not_mem_of_mem_split {sep : Char} {s w : List Char} (h : w ∈ split sep s) : sep ∉ w := by
  induction s generalizing w with
  | nil => simp_all [split]
  | cons c s ih =>
    rw [split] at h
    split at h
    · rcases List.mem_cons.1 h with rfl | h
      · simp
      · exact ih h
    · next hc =>
      obtain ⟨v, vs, e⟩ := List.exists_cons_of_ne_nil (split_ne_nil sep s)
      rw [e] at h ih
      rcases List.mem_cons.1 h with rfl | h
      · have := @ih v (by simp)
        simp [this, Ne.symm hc]
      · exact ih (List.mem_cons_of_mem _ h)

/-- A text without the separator is one stretch. -/
theorem split_of_not_mem {sep : Char} {s : List Char} (h : sep ∉ s) : split sep s = [s] := by
  induction s with
  | nil => rfl
  | cons c s ih =>
    obtain ⟨hc, hs⟩ := List.ne_and_not_mem_of_not_mem_cons h
    rw [split, if_neg (Ne.symm hc), ih hs]

/-- The stretches of a `String`. -/
def pieces (sep : Char) (s : String) : List String :=
  (split sep s.toList).map String.ofList

theorem pieces_of_not_mem {sep : Char} {s : String} (h : sep ∉ s.toList) : pieces sep s = [s] := by
  rw [pieces, split_of_not_mem h, List.map_singleton, String.ofList_toList]

theorem not_mem_of_mem_pieces {sep : Char} {s piece : String} (h : piece ∈ pieces sep s) :
    sep ∉ piece.toList := by
  obtain ⟨w, mem, rfl⟩ := List.mem_map.1 h
  rw [String.toList_ofList]
  exact not_mem_of_mem_split mem

/-- The text before the first place where `stop` begins; all of it if there is no such place. -/
def before (stop : List Char) : List Char → List Char
  | [] => []
  | c :: s => if stop.isPrefixOf (c :: s) then [] else c :: before stop s

end ExportTrail.Text
