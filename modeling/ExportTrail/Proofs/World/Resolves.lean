import ExportTrail.Proofs.World.Linkless

/-!
# Where paths lead, and their canonical paths

There are two readings of a path. `World.walk` follows it as the operating system does and counts
the links it follows; `World.canonicalFrom` enters every link once, keeps what came of it, and gives
up on a link that leads back to itself. `Resolves` is what they have in common: where parts lead
from a directory, and how many links are followed on the way.

* `resolves_of_walk`: a walk that arrives somewhere gives a derivation.
* `canonicalFrom_of_resolves`: a derivation yields a run of the reading. It never meets a link whose
  target is just being read, as following that link takes more steps than its own target does.
* `canonical_of_follow`: so the canonical path of whatever leads to an entry is the path of the
  entry.
-/

namespace ExportTrail.World

variable {w : World} {cwd : Location} {n m : Nat} {l l' : Location} {parts : List String}

/-! ## Derivations -/

/-- Where parts lead from a directory, and how many links are followed on the way. -/
inductive Resolves (w : World) : Nat → Location → List String → Location → Prop
  | here (l : Location) : Resolves w 0 l [] l
  /-- A part that stands for nothing. -/
  | stay {n : Nat} {l l' : Location} {part : String} {rest : List String}
    (undone : part = "" ∨ part = ".") (onward : Resolves w n l rest l') :
    Resolves w n l (part :: rest) l'
  | up {n : Nat} {l l' : Location} {rest : List String} (onward : Resolves w n l.tail rest l') :
    Resolves w n l (".." :: rest) l'
  /-- An entry that is no link. -/
  | down {n : Nat} {l l' : Location} {part : String} {rest : List String} {e : Entry}
    (named : IsName part) (found : w.lookup (part :: l) = some e)
    (solid : ∀ target, e ≠ .link target) (onward : Resolves w n (part :: l) rest l') :
    Resolves w n l (part :: rest) l'
  /-- A link, and where its target leads. -/
  | link {n m : Nat} {l l' mid : Location} {part target : String} {rest : List String}
    (named : IsName part) (found : w.lookup (part :: l) = some (.link target))
    (inner : Resolves w m (linkStart l target) (Text.pieces '/' target) mid)
    (onward : Resolves w n mid rest l') : Resolves w (m + 1 + n) l (part :: rest) l'

theorem not_isName_of_undone {part : String} (h : part = "" ∨ part = ".") : ¬ IsName part := by
  rintro ⟨nonempty, undotted, -⟩
  exact h.elim nonempty undotted

theorem not_isName_up : ¬ IsName ".." := fun named => named.2.2 rfl

/-- Parts lead to one place, and through as many links every time. -/
theorem Resolves.unique {l₁ l₂ : Location} (h : Resolves w n l parts l₁)
    (h' : Resolves w m l parts l₂) : n = m ∧ l₁ = l₂ := by
  induction h generalizing m l₂ with
  | here l => cases h'; exact ⟨rfl, rfl⟩
  | stay undone _ ih =>
    cases h' with
    | stay _ onward => exact ih onward
    | up _ => simp at undone
    | down named | link named => exact absurd named (not_isName_of_undone undone)
  | up _ ih =>
    cases h' with
    | stay undone _ => simp at undone
    | up onward => exact ih onward
    | down named | link named => exact absurd named not_isName_up
  | down named found solid _ ih =>
    cases h' with
    | stay undone _ => exact absurd named (not_isName_of_undone undone)
    | up _ => exact absurd named not_isName_up
    | down _ _ _ onward => exact ih onward
    | link _ found' => exact absurd (Option.some.inj (found.symm.trans found')) (solid _)
  | link named found _ _ ihi iho =>
    cases h' with
    | stay undone _ => exact absurd named (not_isName_of_undone undone)
    | up _ => exact absurd named not_isName_up
    | down _ found' solid => exact absurd (Option.some.inj (found'.symm.trans found)) (solid _)
    | link _ found' inner onward =>
      obtain rfl := Entry.link.inj (Option.some.inj (found.symm.trans found'))
      obtain ⟨rfl, rfl⟩ := ihi inner
      obtain ⟨rfl, rfl⟩ := iho onward
      exact ⟨rfl, rfl⟩

/-- Parts lead where the last of them lead from where the first of them lead. -/
theorem Resolves.split {more : List String} (h : Resolves w n l (parts ++ more) l') :
    ∃ i j mid, Resolves w i l parts mid ∧ Resolves w j mid more l' ∧ i + j = n := by
  induction parts generalizing n l with
  | nil => exact ⟨0, n, l, .here l, h, Nat.zero_add n⟩
  | cons part parts ih =>
    cases h with
    | stay undone onward =>
      obtain ⟨i, j, mid, first, second, sum⟩ := ih onward
      exact ⟨i, j, mid, .stay undone first, second, sum⟩
    | up onward =>
      obtain ⟨i, j, mid, first, second, sum⟩ := ih onward
      exact ⟨i, j, mid, .up first, second, sum⟩
    | down named found solid onward =>
      obtain ⟨i, j, mid, first, second, sum⟩ := ih onward
      exact ⟨i, j, mid, .down named found solid first, second, sum⟩
    | link named found inner onward =>
      obtain ⟨i, j, mid, first, second, sum⟩ := ih onward
      exact ⟨_, j, mid, .link named found inner first, second, by omega⟩

/-- A walk that arrives somewhere gives a derivation that follows as many links. -/
theorem resolves_of_walk {links : Nat} {here : Location} {todo : List String} {a : Arrival}
    (h : w.walk links here todo = .ok a) :
    ∃ n, Resolves w n here todo a.location ∧ n + a.links = links := by
  fun_induction walk w links here todo with
  | case1 links here =>
    cases h
    exact ⟨0, .here _, Nat.zero_add links⟩
  | case2 links here part rest undone ih =>
    obtain ⟨n, onward, count⟩ := ih h
    exact ⟨n, .stay undone onward, count⟩
  | case3 links here rest _ ih =>
    obtain ⟨n, onward, count⟩ := ih h
    exact ⟨n, .up onward, count⟩
  | case4 | case5 | case8 | case9 => cases h
  | case6 links here part rest undone down _ found ih =>
    obtain ⟨n, onward, count⟩ := ih h
    have named : IsName part := ⟨(not_or.1 undone).1, (not_or.1 undone).2, down⟩
    exact ⟨n, .down named found (by simp) onward, count⟩
  | case7 links here part undone down _ content found =>
    cases h
    have named : IsName part := ⟨(not_or.1 undone).1, (not_or.1 undone).2, down⟩
    exact ⟨0, .down named found (by simp) (.here _), Nat.zero_add links⟩
  | case10 here part rest undone down _ target found links ih =>
    obtain ⟨n, all, count⟩ := ih h
    obtain ⟨i, j, mid, inner, onward, sum⟩ := all.split
    have named : IsName part := ⟨(not_or.1 undone).1, (not_or.1 undone).2, down⟩
    exact ⟨i + 1 + j, .link named found inner onward, by omega⟩

/-! ## Trails -/

namespace Trail

/-- The trails that a reading can come to: from the root down, or first up from the working
directory and then down. -/
inductive Tidy : Trail → Prop
  | root : Tidy ⟨.root, []⟩
  | above (k : Nat) : Tidy ⟨.here, List.replicate k ".."⟩
  | down {t : Trail} {name : String} (named : IsName name) (outer : Tidy t) : Tidy (t.down name)

@[simp] theorem location_above (k : Nat) :
    location cwd ⟨.here, List.replicate k ".."⟩ = cwd.drop k := by
  simp [location]

theorem location_down {t : Trail} {name : String} (h : IsName name) :
    (t.down name).location cwd = name :: t.location cwd := by
  have apart : ¬ name = ".." := h.2.2
  have apart' : ¬ ".." = name := Ne.symm apart
  by_cases here : t.anchor = .here <;> simp [location, Trail.down, here, apart]

theorem up_down {t : Trail} {name : String} (h : IsName name) : (t.down name).up = t := by
  rw [up, down]
  split
  · next none => cases none
  · next dots =>
    cases dots
    exact absurd h not_isName_up
  · next same =>
    cases same
    rfl

theorem up_above (k : Nat) :
    up ⟨.here, List.replicate k ".."⟩ = ⟨.here, List.replicate (k + 1) ".."⟩ := by
  cases k <;> rfl

theorem Tidy.up {t : Trail} (tidy : t.Tidy) : t.up.Tidy := by
  cases tidy with
  | root => exact .root
  | above k => exact up_above k ▸ .above (k + 1)
  | down named outer => exact (up_down named).symm ▸ outer

/-- One level up on a trail is one level up in the world. -/
theorem Tidy.location_up {t : Trail} (tidy : t.Tidy) :
    t.up.location cwd = (t.location cwd).tail := by
  cases tidy with
  | root => rfl
  | above k => rw [up_above, location_above, location_above, List.tail_drop]
  | down named outer => rw [up_down named, location_down named, List.tail_cons]

theorem Tidy.linkStart {t : Trail} (tidy : t.Tidy) (target : String) :
    (t.linkStart target).Tidy := by
  rw [Trail.linkStart]
  split
  · exact .root
  · exact tidy

/-- The target of a link starts at the same place for both readings. -/
theorem location_linkStart (t : Trail) (target : String) :
    (t.linkStart target).location cwd = World.linkStart (t.location cwd) target := by
  by_cases leads : ∃ rest, target.toList = '/' :: rest
  · obtain ⟨rest, absolute⟩ := leads
    rw [Trail.linkStart, World.linkStart, absolute]
    rfl
  · have own : t.linkStart target = t := by
      rw [Trail.linkStart]
      split
      · next absolute => exact absurd ⟨_, absolute⟩ leads
      · rfl
    have other : World.linkStart (t.location cwd) target = t.location cwd := by
      rw [World.linkStart]
      split
      · next absolute => exact absurd ⟨_, absolute⟩ leads
      · rfl
    rw [own, other]

/-- The text of such a trail writes where it stands. -/
theorem Tidy.flatten {t : Trail} (tidy : t.Tidy) : t.flatten cwd = t.location cwd := by
  induction tidy with
  | root => rfl
  | above k =>
    rw [location_above, flatten_eq, if_pos rfl, List.reverse_replicate]
    induction k generalizing cwd with
    | zero => rfl
    | succ k ih =>
      have next : textualStep cwd ".." = cwd.tail := rfl
      rw [List.replicate_succ, textual_cons, next, ih, List.drop_tail]
  | down named outer ih => rw [flatten_down named, location_down named, ih]

theorem Tidy.toPath {t : Trail} (tidy : t.Tidy) : t.toPath cwd = (t.location cwd).toPath := by
  have anchored : t.anchor = .here ∨ t.anchor = .root := by
    induction tidy with
    | root => exact .inr rfl
    | above k => exact .inl rfl
    | down _ _ ih => exact ih
  rw [Trail.toPath, tidy.flatten, Location.toPath]
  rcases anchored with here | root
  · rw [here, if_pos rfl]
  · rw [root, if_neg (by decide)]

end Trail

/-! ## The reading of canonical paths -/

/-- Where the target of the link at a location leads, and how many links are followed on the way. -/
def TargetLeads (w : World) (m : Nat) (l l' : Location) : Prop :=
  ∃ name dir target, l = name :: dir ∧ w.lookup l = some (.link target) ∧
    Resolves w m (linkStart dir target) (Text.pieces '/' target) l'

theorem TargetLeads.unique {l₁ l₂ : Location} (h : TargetLeads w n l l₁)
    (h' : TargetLeads w m l l₂) : n = m ∧ l₁ = l₂ := by
  obtain ⟨name, dir, target, rfl, found, inner⟩ := h
  obtain ⟨name', dir', target', same, found', inner'⟩ := h'
  obtain ⟨rfl, rfl⟩ := List.cons.inj same
  obtain rfl := Entry.link.inj (Option.some.inj (found.symm.trans found'))
  exact inner.unique inner'

/-- Whether what came of the links that have been read is where they lead. -/
def Settled (w : World) (cwd : Location) (seen : List (Trail × Option Trail)) : Prop :=
  ∀ key t, seen.lookup key = some (some t) →
    t.Tidy ∧ ∀ m l, TargetLeads w m (key.location cwd) l → t.location cwd = l

/-- Whether following the target of any link that is still being read takes at least a number of
links. -/
def Costly (w : World) (cwd : Location) (n : Nat) (seen : List (Trail × Option Trail)) : Prop :=
  ∀ key, seen.lookup key = some none → ∀ m l, TargetLeads w m (key.location cwd) l → n ≤ m

theorem Costly.mono {seen : List (Trail × Option Trail)} (h : Costly w cwd n seen) (le : m ≤ n) :
    Costly w cwd m seen :=
  fun key reading k l leads => Nat.le_trans le (h key reading k l leads)

/-- The target of a link takes as many links as it does. -/
theorem Costly.enter {seen : List (Trail × Option Trail)} (h : Costly w cwd m seen) {key : Trail}
    (leads : TargetLeads w m (key.location cwd) l) : Costly w cwd m ((key, none) :: seen) := by
  intro key' reading k l' leads'
  rw [List.lookup_cons] at reading
  split at reading
  · next same =>
    obtain rfl := beq_iff_eq.1 same
    exact Nat.le_of_eq (leads.unique leads').1
  · exact h key' reading k l' leads'

theorem Settled.enter {seen : List (Trail × Option Trail)} (h : Settled w cwd seen) (key : Trail) :
    Settled w cwd ((key, none) :: seen) := by
  intro key' t known
  rw [List.lookup_cons] at known
  split at known
  · cases known
  · exact h key' t known

theorem Settled.leave {seen : List (Trail × Option Trail)} (h : Settled w cwd seen) {key t : Trail}
    (tidy : t.Tidy) (leads : TargetLeads w m (key.location cwd) (t.location cwd)) :
    Settled w cwd ((key, some t) :: seen) := by
  intro key' t' known
  rw [List.lookup_cons] at known
  split at known
  · next same =>
    obtain rfl := beq_iff_eq.1 same
    cases known
    exact ⟨tidy, fun k l leads' => (leads.unique leads').2⟩
  · exact h key' t' known

section

variable {links : Nat} {seen : List (Trail × Option Trail)} {t : Trail} {part : String}
  {rest : List String} {outer : List (Trail × List String)} (named : IsName part)
  (clean : Path.isNulPart part = false)
include named clean

theorem canonicalFrom_unlinked (unlinked : w.linkAt? ((t.down part).location cwd) = none) :
    w.canonicalFrom cwd links seen t (part :: rest) outer =
      w.canonicalFrom cwd links seen (t.down part) rest outer := by
  rw [canonicalFrom, if_neg (not_or.2 ⟨named.1, named.2.1⟩), if_neg named.2.2, clean,
    if_neg Bool.false_ne_true]
  dsimp only
  rw [unlinked]

variable {target : String} (linked : w.linkAt? ((t.down part).location cwd) = some target)
include linked

/-- A link that has been read is not entered again. -/
theorem canonicalFrom_known {known : Trail} (read : seen.lookup (t.down part) = some (some known)) :
    w.canonicalFrom cwd links seen t (part :: rest) outer =
      w.canonicalFrom cwd links seen known rest outer := by
  rw [canonicalFrom, if_neg (not_or.2 ⟨named.1, named.2.1⟩), if_neg named.2.2, clean,
    if_neg Bool.false_ne_true]
  dsimp only
  rw [linked]
  dsimp only
  rw [read]

theorem canonicalFrom_new (unread : seen.lookup (t.down part) = none) :
    w.canonicalFrom cwd (links + 1) seen t (part :: rest) outer =
      w.canonicalFrom cwd links ((t.down part, none) :: seen) (t.linkStart target)
        (Text.pieces '/' target) ((t.down part, rest) :: outer) := by
  rw [canonicalFrom, if_neg (not_or.2 ⟨named.1, named.2.1⟩), if_neg named.2.2, clean,
    if_neg Bool.false_ne_true]
  dsimp only
  rw [linked]
  dsimp only
  rw [unread]

end

/-- Whether a reading goes on behind some parts at a trail that stands at a given location. It has
entered a limited number of links by then, and no link is being read that was not before. -/
def GoesOn (w : World) (cwd : Location) (n links : Nat) (seen : List (Trail × Option Trail))
    (t : Trail) (parts : List String) (l : Location) : Prop :=
  ∃ links' seen' t', t'.Tidy ∧ t'.location cwd = l ∧ links ≤ links' + n ∧ Settled w cwd seen' ∧
    (∀ key, seen'.lookup key = some none → seen.lookup key = some none) ∧
    ∀ more outer, w.canonicalFrom cwd links seen t (parts ++ more) outer =
      w.canonicalFrom cwd links' seen' t' more outer

/-- One part more in front, by which only the trail changes. -/
theorem GoesOn.cons {links : Nat} {seen : List (Trail × Option Trail)} {t t' : Trail}
    {part : String} (h : GoesOn w cwd n links seen t' parts l)
    (turn : ∀ more outer, w.canonicalFrom cwd links seen t (part :: more) outer =
      w.canonicalFrom cwd links seen t' more outer) :
    GoesOn w cwd n links seen t (part :: parts) l := by
  obtain ⟨links', seen', end', tidy, stands, count, settled, back, run⟩ := h
  refine ⟨links', seen', end', tidy, stands, count, settled, back, fun more outer => ?_⟩
  rw [List.cons_append, turn, run]

theorem GoesOn.mono {links : Nat} {seen : List (Trail × Option Trail)} {t : Trail}
    (h : GoesOn w cwd n links seen t parts l) (le : n ≤ m) :
    GoesOn w cwd m links seen t parts l := by
  obtain ⟨links', seen', end', tidy, stands, count, rest⟩ := h
  exact ⟨links', seen', end', tidy, stands, by omega, rest⟩

/-- **A derivation yields a run of the reading.** -/
theorem canonicalFrom_of_resolves (named : w.Named) (h : Resolves w n l parts l') {t : Trail}
    (tidy : t.Tidy) (stands : t.location cwd = l) {seen : List (Trail × Option Trail)}
    (settled : Settled w cwd seen) (costly : Costly w cwd n seen) {links : Nat}
    (enough : n ≤ links) :
    GoesOn w cwd n links seen t parts l' := by
  induction h generalizing t seen links with
  | here l =>
    exact ⟨links, seen, t, tidy, stands, by omega, settled, fun _ h => h, fun _ _ => rfl⟩
  | stay undone _ ih =>
    refine (ih tidy stands settled costly enough).cons fun more outer => ?_
    rw [canonicalFrom, if_pos undone]
  | @up n l l' rest _ ih =>
    have stands : t.up.location cwd = l.tail := by rw [tidy.location_up, stands]
    refine (ih tidy.up stands settled costly enough).cons fun more outer => ?_
    rw [canonicalFrom, if_neg (by decide), if_pos rfl]
  | @down n l l' part rest e isName found solid _ ih =>
    have stands : (t.down part).location cwd = part :: l := by
      rw [Trail.location_down isName, stands]
    have clean : Path.isNulPart part = false := (named part l (by rw [found]; rfl)).2
    have unlinked : w.linkAt? ((t.down part).location cwd) = none := by
      rw [stands, linkAt?, found]
      cases e with
      | link target => exact absurd rfl (solid target)
      | file content => rfl
      | directory => rfl
    refine (ih (.down isName tidy) stands settled costly enough).cons fun more outer => ?_
    exact canonicalFrom_unlinked isName clean unlinked
  | @link n m l l' mid part target rest isName found inner _ ihi iho =>
    have place : (t.down part).location cwd = part :: l := by
      rw [Trail.location_down isName, stands]
    have leads : TargetLeads w m ((t.down part).location cwd) mid := by
      rw [place]
      exact ⟨part, l, target, rfl, found, inner⟩
    have clean : Path.isNulPart part = false := (named part l (by rw [found]; rfl)).2
    have linked : w.linkAt? ((t.down part).location cwd) = some target := by
      rw [place, linkAt?, found]
    rcases seenHere : seen.lookup (t.down part) with _ | _ | known
    · -- the link is new: its target is read, and then what is behind it
      obtain ⟨links, rfl⟩ : ∃ k, links = k + 1 := ⟨links - 1, by omega⟩
      have start : (t.linkStart target).location cwd = linkStart l target := by
        rw [Trail.location_linkStart, stands]
      obtain ⟨links₁, seen₁, t₁, tidy₁, stands₁, count₁, settled₁, back₁, run₁⟩ :=
        ihi (tidy.linkStart target) start (settled.enter (t.down part))
          ((costly.mono (by omega)).enter leads) (by omega : m ≤ links)
      have back₂ : ∀ key, List.lookup key ((t.down part, some t₁) :: seen₁) = some none →
          seen.lookup key = some none := by
        intro key reading
        rw [List.lookup_cons] at reading
        split at reading
        · cases reading
        · next other =>
          have reading := back₁ key reading
          rwa [List.lookup_cons, other] at reading
      have costly₂ : Costly w cwd n ((t.down part, some t₁) :: seen₁) :=
        fun key reading => costly.mono (by omega) key (back₂ key reading)
      obtain ⟨links₃, seen₃, t₃, tidy₃, stands₃, count₃, settled₃, back₃, run₃⟩ :=
        iho tidy₁ stands₁ (settled₁.leave tidy₁ (by rwa [stands₁])) costly₂ (by omega : n ≤ links₁)
      refine ⟨links₃, seen₃, t₃, tidy₃, stands₃, by omega, settled₃,
        fun key reading => back₂ key (back₃ key reading), fun more outer => ?_⟩
      have through := run₁ [] ((t.down part, rest ++ more) :: outer)
      rw [List.append_nil] at through
      rw [List.cons_append, canonicalFrom_new isName clean linked seenHere, through, canonicalFrom,
        run₃]
    · -- the link would be met on the way through its own target
      have more := costly _ seenHere m mid leads
      omega
    · obtain ⟨tidyKnown, standsKnown⟩ := settled _ known seenHere
      have onward : GoesOn w cwd n links seen known rest l' :=
        iho tidyKnown (standsKnown m mid leads) settled (costly.mono (by omega)) (by omega)
      refine (onward.cons fun more outer => ?_).mono (by omega)
      exact canonicalFrom_known isName clean linked seenHere

/-- **The canonical path of whatever leads to an entry is the path of the entry**, through any links
and steps up. -/
theorem canonical_of_follow (named : w.Named) {p : Path} (h : w.follow cwd p = .ok l) {e : Entry}
    (found : w.lookup l = some e) (solid : ∀ target, e ≠ .link target) :
    w.canonical cwd p = .ok l.toPath := by
  obtain ⟨-, a, walked, rfl⟩ := walk_of_follow h
  obtain ⟨n, resolves, count⟩ := resolves_of_walk walked
  let origin : Trail := ⟨if p.isAbsolute then .root else .here, []⟩
  have tidy : origin.Tidy := by
    simp only [origin]
    split
    · exact .root
    · exact .above 0
  have stands : origin.location cwd = start cwd p := by
    obtain ⟨anchor, parts⟩ := p
    cases anchor <;> simp [origin, Trail.location, Path.isAbsolute, start]
  have enough : n ≤ w.linkBound cwd := by rw [linkBound]; omega
  have goesOn : GoesOn w cwd n (w.linkBound cwd) [] origin p.parts a.location :=
    canonicalFrom_of_resolves named resolves tidy stands (by simp [Settled]) (by simp [Costly])
      enough
  obtain ⟨links, seen, t, tidy', stands', -, -, -, run⟩ := goesOn
  have read : w.canonicalFrom cwd (w.linkBound cwd) [] origin p.parts [] = .ok t := by
    have run := run [] []
    rwa [List.append_nil, canonicalFrom] at run
  rw [canonical]
  dsimp only
  rw [read]
  dsimp only
  rw [tidy'.toPath, stands']
  have ends : w.follow cwd a.location.toPath = .error .nameTooLong ∨
      w.follow cwd a.location.toPath = .ok a.location := follow_toPath named solid found
  rcases ends with long | ends
  · rw [long]
  · rw [ends]

end ExportTrail.World
