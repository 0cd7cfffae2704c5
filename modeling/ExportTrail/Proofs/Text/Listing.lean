import ExportTrail.Text.Listing
import Mathlib.Data.List.TakeWhile

/-!
# Reading and writing listings

A listing is read by cutting it at its commas and trimming what stands between them. A list of items
(`IsItem`) can be written as a listing in many ways: with any blanks around the items, and with any
number of empty stretches among them (`Lists`). Reading undoes this and nothing else: a text is read
as some items if and only if it lists them (`listing_eq_iff`).
-/

namespace ExportTrail.Text

/-! ## Trimming -/

section Trim

variable {p : Char → Bool} {a s b : List Char}

/-- Whether a text neither starts nor ends with a character of a class. -/
structure Trimmed (p : Char → Bool) (s : List Char) : Prop where
  front : ∀ c ∈ s.head?, p c = false
  back : ∀ c ∈ s.getLast?, p c = false

theorem dropWhile_padded (before : ∀ c ∈ a, p c = true) (front : ∀ c ∈ s.head?, p c = false) :
    (a ++ s).dropWhile p = s := by
  rw [List.dropWhile_append_of_pos before]
  cases s with
  | nil => rfl
  | cons c s => rw [List.dropWhile_cons, front c rfl, if_neg Bool.false_ne_true]

/-- Trimming takes the padding away. -/
theorem trimBy_padded (before : ∀ c ∈ a, p c = true) (after : ∀ c ∈ b, p c = true)
    (trimmed : Trimmed p s) : trimBy p (a ++ s ++ b) = s := by
  rw [trimBy, List.append_assoc]
  cases s with
  | nil =>
    have padding : ∀ c ∈ a ++ b, p c = true := List.forall_mem_append.2 ⟨before, after⟩
    have gone := dropWhile_padded (s := []) padding (by simp)
    rw [List.append_nil] at gone
    rw [List.nil_append, gone]
    rfl
  | cons c s =>
    have back : ∀ d ∈ (c :: s).reverse.head?, p d = false := by
      rw [List.head?_reverse]
      exact trimmed.back
    rw [dropWhile_padded before (s := c :: s ++ b) trimmed.front, List.reverse_append,
      dropWhile_padded (by simpa using after) back, List.reverse_reverse]

/-- What trimming takes away is padding. -/
theorem trimBy_pads (p : Char → Bool) (s : List Char) :
    ∃ a b, s = a ++ trimBy p s ++ b ∧ (∀ c ∈ a, p c = true) ∧ ∀ c ∈ b, p c = true := by
  refine ⟨s.takeWhile p, ((s.dropWhile p).reverse.takeWhile p).reverse, ?_,
    fun c => List.mem_takeWhile_imp, fun c mem => List.mem_takeWhile_imp (List.mem_reverse.1 mem)⟩
  rw [trimBy, List.append_assoc, ← List.reverse_append, List.takeWhile_append_dropWhile,
    List.reverse_reverse, List.takeWhile_append_dropWhile]

theorem front_dropWhile (p : Char → Bool) (s : List Char) :
    ∀ c ∈ (s.dropWhile p).head?, p c = false := by
  intro c mem
  have stop := List.head?_dropWhile_not p s
  rwa [Option.mem_def.1 mem] at stop

theorem trimmed_trimBy (p : Char → Bool) (s : List Char) : Trimmed p (trimBy p s) where
  front := by
    intro c mem
    -- the padding at the end is cut off a text that has none at the start
    have cut : s.dropWhile p =
        trimBy p s ++ ((s.dropWhile p).reverse.takeWhile p).reverse := by
      rw [trimBy, ← List.reverse_append, List.takeWhile_append_dropWhile, List.reverse_reverse]
    refine front_dropWhile p s c ?_
    rw [cut, List.head?_append, Option.mem_def.1 mem]
    rfl
  back := by
    rw [trimBy, List.getLast?_reverse]
    exact front_dropWhile p _

end Trim

/-! ## Splitting -/

theorem split_append {sep : Char} {w : List Char} (h : sep ∉ w) (s : List Char) :
    split sep (w ++ sep :: s) = w :: split sep s := by
  induction w with
  | nil => rw [List.nil_append, split, if_pos rfl]
  | cons c w ih =>
    obtain ⟨other, h⟩ := List.ne_and_not_mem_of_not_mem_cons h
    rw [List.cons_append, split, if_neg (Ne.symm other), ih h]

/-- Splitting undoes joining, if there is something to join. -/
theorem split_join {sep : Char} {ws : List (List Char)} (nonempty : ws ≠ [])
    (h : ∀ w ∈ ws, sep ∉ w) : split sep (join sep ws) = ws := by
  induction ws with
  | nil => exact absurd rfl nonempty
  | cons w ws ih =>
    obtain ⟨first, rest⟩ := List.forall_mem_cons.1 h
    cases ws with
    | nil => exact split_of_not_mem first
    | cons v ws => rw [join, split_append first, ih (List.cons_ne_nil v ws) rest]

/-! ## Items -/

/-- Whether a text can be an item of a listing: it is not empty, has no comma in it, and no blanks
at its ends. -/
structure IsItem (x : List Char) : Prop where
  nonempty : x ≠ []
  unseparated : ',' ∉ x
  trimmed : Trimmed isBlank x

/-- Whether a text is made of blanks alone. -/
def Blank (s : List Char) : Prop := ∀ c ∈ s, isBlank c = true

/-- Whether stretches of text hold some items in their order: each stretch an item with blanks
around it, or no item and blanks alone. -/
inductive Holds : List (List Char) → List (List Char) → Prop
  | nil : Holds [] []
  | blank {w : List Char} {ws xs : List (List Char)} (empty : Blank w) (rest : Holds ws xs) :
    Holds (w :: ws) xs
  | item {a x b : List Char} {ws xs : List (List Char)} (before : Blank a) (after : Blank b)
    (rest : Holds ws xs) : Holds ((a ++ x ++ b) :: ws) (x :: xs)

/-- Whether a text lists some items: stretches with commas between them hold the items. -/
def ListsChars (s : List Char) (xs : List (List Char)) : Prop :=
  ∃ ws, Holds ws xs ∧ s = join ',' ws

/-- The items that stretches of text are read as. -/
def itemsOf (ws : List (List Char)) : List (List Char) := (ws.map trim).filter (· ≠ [])

theorem itemsOf_cons (w : List Char) (ws : List (List Char)) :
    itemsOf (w :: ws) = if trim w = [] then itemsOf ws else trim w :: itemsOf ws := by
  rw [itemsOf, List.map_cons, List.filter_cons]
  by_cases empty : trim w = [] <;> simp [empty, itemsOf]

theorem isItem_of_mem_itemsOf {ws : List (List Char)} (h : ∀ w ∈ ws, ',' ∉ w) {x : List Char}
    (mem : x ∈ itemsOf ws) : IsItem x := by
  obtain ⟨mem, nonempty⟩ := List.mem_filter.1 mem
  obtain ⟨w, stretch, rfl⟩ := List.mem_map.1 mem
  refine ⟨by simpa using nonempty, fun comma => h w stretch ?_, trimmed_trimBy isBlank w⟩
  obtain ⟨a, b, eq, -⟩ := trimBy_pads isBlank w
  rw [eq]
  exact List.mem_append_left b (List.mem_append_right a comma)

/-- Stretches hold what they are read as. -/
theorem holds_itemsOf (ws : List (List Char)) : Holds ws (itemsOf ws) := by
  induction ws with
  | nil => exact .nil
  | cons w ws ih =>
    obtain ⟨a, b, eq, before, after⟩ := trimBy_pads isBlank w
    rw [itemsOf_cons]
    split
    · next empty =>
      refine .blank ?_ ih
      rw [← trim, empty, List.append_nil] at eq
      rw [Blank, eq]
      exact List.forall_mem_append.2 ⟨before, after⟩
    · have item : Holds ((a ++ trim w ++ b) :: ws) (trim w :: itemsOf ws) :=
        .item before after ih
      rwa [trim, ← eq] at item

/-- Stretches are read as the items that they hold. -/
theorem Holds.itemsOf_eq {ws xs : List (List Char)} (h : Holds ws xs) (items : ∀ x ∈ xs, IsItem x) :
    itemsOf ws = xs := by
  induction h with
  | nil => rfl
  | @blank w _ _ empty _ ih =>
    have gone : trim w = [] := trimBy_padded (a := []) (s := []) (by simp) empty ⟨by simp, by simp⟩
    rw [itemsOf_cons, if_pos gone, ih items]
  | item before after _ ih =>
    obtain ⟨first, items⟩ := List.forall_mem_cons.1 items
    have left := trimBy_padded before after first.trimmed
    rw [itemsOf_cons, trim, left, if_neg first.nonempty, ih items]

theorem Blank.comma_not_mem {s : List Char} (h : Blank s) : ',' ∉ s :=
  fun mem => absurd (h ',' mem) (by decide)

/-- No stretch that holds items has a comma in it. -/
theorem Holds.comma_not_mem {ws xs : List (List Char)} (h : Holds ws xs)
    (items : ∀ x ∈ xs, IsItem x) : ∀ w ∈ ws, ',' ∉ w := by
  induction h with
  | nil => simp
  | blank empty _ ih => exact List.forall_mem_cons.2 ⟨empty.comma_not_mem, ih items⟩
  | item before after _ ih =>
    obtain ⟨first, items⟩ := List.forall_mem_cons.1 items
    refine List.forall_mem_cons.2 ⟨?_, ih items⟩
    simp [before.comma_not_mem, after.comma_not_mem, first.unseparated]

/-! ## Listings -/

theorem listingChars_of_lists {s : List Char} {xs : List (List Char)} (items : ∀ x ∈ xs, IsItem x)
    (h : ListsChars s xs) : listingChars s = xs := by
  obtain ⟨ws, holds, rfl⟩ := h
  cases ws with
  | nil =>
    cases holds
    rfl
  | cons w ws =>
    show itemsOf (split ',' (join ',' (w :: ws))) = xs
    rw [split_join (List.cons_ne_nil w ws) (holds.comma_not_mem items), holds.itemsOf_eq items]

/-- A text is read as some items if and only if they can be items and the text lists them. -/
theorem listingChars_eq_iff {s : List Char} {xs : List (List Char)} :
    listingChars s = xs ↔ (∀ x ∈ xs, IsItem x) ∧ ListsChars s xs := by
  constructor
  · rintro rfl
    exact ⟨fun x => isItem_of_mem_itemsOf fun w => not_mem_of_mem_split,
      split ',' s, holds_itemsOf _, (join_split ',' s).symm⟩
  · rintro ⟨items, lists⟩
    exact listingChars_of_lists items lists

/-- The items alone, with commas between them, list the items. -/
theorem holds_self (xs : List (List Char)) : Holds xs xs := by
  induction xs with
  | nil => exact .nil
  | cons x xs ih =>
    have none : Blank [] := by simp [Blank]
    have item : Holds (([] ++ x ++ []) :: xs) (x :: xs) := .item none none ih
    rwa [List.nil_append, List.append_nil] at item

/-- Whether texts can all be items of a listing. -/
def AreItems (xs : List String) : Prop := ∀ x ∈ xs, IsItem x.toList

/-- Whether a text lists some items. -/
def Lists (text : String) (xs : List String) : Prop := ListsChars text.toList (xs.map String.toList)

/-- The texts with commas between them. -/
def commaJoined (xs : List String) : String := String.intercalate "," xs

theorem toList_commaJoined (xs : List String) :
    (commaJoined xs).toList = join ',' (xs.map String.toList) := by
  induction xs with
  | nil => rfl
  | cons x xs ih =>
    cases xs with
    | nil => simp [commaJoined, join]
    | cons y ys =>
      rw [commaJoined] at ih ⊢
      rw [String.intercalate_cons_cons, String.toList_append, String.toList_append, ih]
      simp [join]

theorem lists_commaJoined (xs : List String) : Lists (commaJoined xs) xs :=
  ⟨_, holds_self _, toList_commaJoined xs⟩

/-- **A text is read as some items if and only if they can be items and the text lists them**, with
any blanks around them and any number of empty stretches among them. -/
theorem listing_eq_iff {text : String} {xs : List String} :
    listing text = xs ↔ AreItems xs ∧ Lists text xs := by
  have chars : listing text = xs ↔ listingChars text.toList = xs.map String.toList := by
    constructor
    · rintro rfl
      simp [listing, Function.comp_def]
    · intro eq
      simp [listing, eq, Function.comp_def]
  rw [chars, listingChars_eq_iff, List.forall_mem_map]
  rfl

end ExportTrail.Text
