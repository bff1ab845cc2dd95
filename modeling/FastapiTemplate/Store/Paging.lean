import Mathlib.Data.List.Pairwise
import Mathlib.Data.List.Basic

/-!
# Following pages

A list is answered a page at a time, each with the position where the next one starts, if there is one. `follow` asks
for one page after another, and puts together what they show. What is listed may change between two requests, so a
request is answered according to its number.

There is one rule for each thing to be said of a chain of pages: that it ends (`follow_ends`), what all of the visited
items have (`follow_all`), in which order they come (`follow_pairwise`), what is visited (`follow_mem`), and that it is
the same if the positions are written differently (`follow_map`).

`Page.cut` is the page that shows the first items of an ordered list, and goes on after the last item it shows.
-/

namespace FastapiTemplate.Store

variable {α κ : Type}

/-- The items of a page, and where the next one starts. -/
structure Page (α κ : Type) where
  items : List α
  next : Option κ

/-- The items of all pages from a position on, starting with request `i`; nothing if a request fails, or the fuel does
not suffice. -/
def follow (fetch : ℕ → Option κ → Option (Page α κ)) : ℕ → ℕ → Option κ → Option (List α)
  | 0, _, _ => none
  | fuel + 1, i, position => do
    let page ← fetch i position
    match page.next with
    | none => return page.items
    | some next =>
      let rest ← follow fetch fuel (i + 1) (some next)
      return page.items ++ rest

variable {fetch : ℕ → Option κ → Option (Page α κ)} {fuel i : ℕ} {position : Option κ} {page : Page α κ} {visited : List α}

/-- The last page. -/
lemma follow_last (hpage : fetch i position = some page) (hnext : page.next = none) :
    follow fetch (fuel + 1) i position = some page.items := by
  unfold follow
  rw [hpage]
  simp [hnext]

/-- A page, and the chain: it is the last one, or the others follow. -/
lemma follow_cases (h : follow fetch (fuel + 1) i position = some visited) : ∃ page, fetch i position = some page ∧
    ((page.next = none ∧ visited = page.items) ∨ ∃ next rest, page.next = some next ∧
      follow fetch fuel (i + 1) (some next) = some rest ∧ visited = page.items ++ rest) := by
  unfold follow at h
  obtain ⟨page, hpage, h⟩ := Option.bind_eq_some_iff.1 h
  refine ⟨page, hpage, ?_⟩
  cases hnext : page.next with
  | none =>
    rw [hnext] at h
    exact .inl ⟨rfl, (Option.some.inj h).symm⟩
  | some next =>
    rw [hnext] at h
    obtain ⟨rest, hrest, h⟩ := Option.bind_eq_some_iff.1 h
    exact .inr ⟨next, rest, rfl, hrest, (Option.some.inj h).symm⟩

/-- More fuel changes nothing. -/
lemma follow_mono {fuel' : ℕ} (h : follow fetch fuel i position = some visited) (hfuel : fuel ≤ fuel') :
    follow fetch fuel' i position = some visited := by
  induction fuel generalizing i position visited fuel' with
  | zero => cases h
  | succ fuel ih =>
    obtain ⟨fuel', rfl⟩ : ∃ k, fuel' = k + 1 := ⟨fuel' - 1, by omega⟩
    obtain ⟨page, hfetch, ⟨hlast, rfl⟩ | ⟨next, rest, hlast, hrest, rfl⟩⟩ := follow_cases h
    · exact follow_last hfetch hlast
    · unfold follow
      rw [hfetch]
      simp [hlast, ih hrest (Nat.le_of_succ_le_succ hfuel)]

/-- The fuel does not matter. -/
theorem follow_unique {fuel' : ℕ} {visited' : List α} (h : follow fetch fuel i position = some visited)
    (h' : follow fetch fuel' i position = some visited') : visited = visited' :=
  Option.some.inj ((follow_mono h (Nat.le_add_right fuel fuel')).symm.trans (follow_mono h' (Nat.le_add_left fuel' fuel)))

/-- **The chain ends**, if each request is answered and something decreases from page to page. -/
theorem follow_ends {I : ℕ → Option κ → Prop} (size : ℕ → Option κ → ℕ)
    (hpage : ∀ i position, I i position → ∃ page, fetch i position = some page ∧
      ∀ next, page.next = some next → I (i + 1) (some next) ∧ size (i + 1) (some next) < size i position)
    (hstart : I i position) (hfuel : size i position < fuel) : ∃ visited, follow fetch fuel i position = some visited := by
  induction fuel generalizing i position with
  | zero => omega
  | succ fuel ih =>
    obtain ⟨page, hfetch, hnext⟩ := hpage i position hstart
    cases hlast : page.next with
    | none => exact ⟨page.items, follow_last hfetch hlast⟩
    | some next =>
      obtain ⟨hI, hsize⟩ := hnext next hlast
      obtain ⟨rest, hrest⟩ := ih hI (by omega)
      refine ⟨page.items ++ rest, ?_⟩
      unfold follow
      rw [hfetch]
      simp [hlast, hrest]

/-- **What all visited items have.** -/
theorem follow_all {P : ℕ → Option κ → α → Prop}
    (hitems : ∀ i position page, fetch i position = some page → ∀ a ∈ page.items, P i position a)
    (hnext : ∀ i position page next, fetch i position = some page → page.next = some next →
      ∀ a, P (i + 1) (some next) a → P i position a)
    (h : follow fetch fuel i position = some visited) : ∀ a ∈ visited, P i position a := by
  induction fuel generalizing i position visited with
  | zero => cases h
  | succ fuel ih =>
    obtain ⟨page, hfetch, ⟨-, rfl⟩ | ⟨next, rest, hlast, hrest, rfl⟩⟩ := follow_cases h
    · exact hitems i position page hfetch
    · intro a ha
      rcases List.mem_append.1 ha with ha | ha
      · exact hitems i position page hfetch a ha
      · exact hnext i position page next hfetch hlast a (ih hrest a ha)

/-- **The order of the visited items**, if that of a page agrees with it, and what comes later is related to all of its
items. -/
theorem follow_pairwise {R : α → α → Prop} {P : ℕ → Option κ → α → Prop}
    (hitems : ∀ i position page, fetch i position = some page → ∀ a ∈ page.items, P i position a)
    (hnext : ∀ i position page next, fetch i position = some page → page.next = some next →
      ∀ a, P (i + 1) (some next) a → P i position a)
    (hpage : ∀ i position page, fetch i position = some page → page.items.Pairwise R)
    (hlater : ∀ i position page next, fetch i position = some page → page.next = some next →
      ∀ a ∈ page.items, ∀ b, P (i + 1) (some next) b → R a b)
    (h : follow fetch fuel i position = some visited) : visited.Pairwise R := by
  induction fuel generalizing i position visited with
  | zero => cases h
  | succ fuel ih =>
    obtain ⟨page, hfetch, ⟨-, rfl⟩ | ⟨next, rest, hlast, hrest, rfl⟩⟩ := follow_cases h
    · exact hpage i position page hfetch
    · refine List.pairwise_append.2 ⟨hpage i position page hfetch, ih hrest, fun a ha b hb => ?_⟩
      exact hlater i position page next hfetch hlast a ha b (follow_all hitems hnext hrest b hb)

/-- **What is visited**: a kind of item that each page shows or leaves to the pages after it. -/
theorem follow_mem {S : α → Prop} {Q : ℕ → Option κ → Prop}
    (hpage : ∀ i position page, fetch i position = some page → Q i position →
      (∃ a ∈ page.items, S a) ∨ ∃ next, page.next = some next ∧ Q (i + 1) (some next))
    (h : follow fetch fuel i position = some visited) (hstart : Q i position) : ∃ a ∈ visited, S a := by
  induction fuel generalizing i position visited with
  | zero => cases h
  | succ fuel ih =>
    obtain ⟨page, hfetch, ⟨hlast, rfl⟩ | ⟨next, rest, hlast, hrest, rfl⟩⟩ := follow_cases h
    · rcases hpage i position page hfetch hstart with hshown | ⟨next, hnext, -⟩
      · exact hshown
      · cases hlast.symm.trans hnext
    · rcases hpage i position page hfetch hstart with ⟨a, ha, hS⟩ | ⟨next', hnext, hlater⟩
      · exact ⟨a, List.mem_append_left _ ha, hS⟩
      · obtain rfl := Option.some.inj (hlast.symm.trans hnext)
        obtain ⟨a, ha, hS⟩ := ih hrest hlater
        exact ⟨a, List.mem_append_right _ ha, hS⟩

/-- **Positions that are written differently.** -/
theorem follow_map {κ' : Type} {fetch' : ℕ → Option κ' → Option (Page α κ')} {encode : κ → κ'} {I : Option κ → Prop}
    (hpage : ∀ i position, I position → ∃ page, fetch i position = some page ∧
      fetch' i (position.map encode) = some ⟨page.items, page.next.map encode⟩ ∧
      ∀ next, page.next = some next → I (some next)) (hstart : I position) :
    follow fetch' fuel i (position.map encode) = follow fetch fuel i position := by
  induction fuel generalizing i position with
  | zero => rfl
  | succ fuel ih =>
    obtain ⟨page, hfetch, hfetch', hnext⟩ := hpage i position hstart
    unfold follow
    rw [hfetch, hfetch']
    cases hlast : page.next with
    | none => simp [hlast]
    | some next =>
      have hrest := ih (i := i + 1) (hnext next hlast)
      simp only [Option.map_some] at hrest
      simp [hlast, hrest]

/-! ### The first items of an ordered list -/

/-- The first items; the next page starts after the last one of them, if there are more. -/
def Page.cut (position : α → κ) (size : ℕ) (items : List α) : Page α κ where
  items := items.take size
  next := if size < items.length then (items.take size).getLast?.map position else none

section Cut

variable {position : α → κ} {size : ℕ} {items : List α} {R : α → α → Prop} {a : α}

/-- One item more than fits on the page is enough to cut it. -/
lemma Page.cut_take : Page.cut position size (items.take (size + 1)) = Page.cut position size items := by
  have hlength : size < (items.take (size + 1)).length ↔ size < items.length := by
    rw [List.length_take]
    omega
  unfold Page.cut
  simp only [List.take_take, Nat.min_eq_left (Nat.le_succ size), hlength]

/-- The next page starts after an item of this page that comes after all others. -/
lemma Page.cut_next {next : κ} (hsorted : items.Pairwise R) (h : (Page.cut position size items).next = some next) :
    ∃ last ∈ items.take size, position last = next ∧ ∀ a ∈ items.take size, a = last ∨ R a last := by
  unfold Page.cut at h
  dsimp only at h
  split at h
  · obtain ⟨last, hlast, rfl⟩ := Option.map_eq_some_iff.1 h
    obtain ⟨before, hbefore⟩ := List.getLast?_eq_some_iff.1 hlast
    refine ⟨last, List.mem_of_getLast? hlast, rfl, fun a ha => ?_⟩
    have hpairs : (before ++ [last]).Pairwise R := hbefore ▸ hsorted.sublist (List.take_sublist size items)
    rw [hbefore] at ha
    rcases List.mem_append.1 ha with ha | ha
    · exact .inr ((List.pairwise_append.1 hpairs).2.2 a ha last (List.mem_singleton_self last))
    · exact .inl (List.mem_singleton.1 ha)
  · cases h

/-- What is not on the page comes after all of its items. -/
lemma Page.mem_cut (position : α → κ) (hsorted : items.Pairwise R) (hsize : 0 < size) (ha : a ∈ items) :
    a ∈ items.take size ∨ ∃ last, (Page.cut position size items).next = some (position last) ∧ R last a := by
  rw [← List.take_append_drop size items] at ha hsorted
  rcases List.mem_append.1 ha with ha | ha
  · exact .inl ha
  · right
    have hmore : size < items.length := by
      by_contra hshort
      rw [List.drop_eq_nil_of_le (Nat.le_of_not_lt hshort)] at ha
      cases ha
    have hne : items.take size ≠ [] := by
      intro hnil
      have hlength := congrArg List.length hnil
      rw [List.length_take, List.length_nil] at hlength
      omega
    refine ⟨(items.take size).getLast hne, ?_, (List.pairwise_append.1 hsorted).2.2 _ (List.getLast_mem hne) a ha⟩
    unfold Page.cut
    dsimp only
    rw [if_pos hmore, List.getLast?_eq_some_getLast hne]
    rfl

/-- An item is on the page if not too many come before it. -/
theorem mem_take_iff [DecidableRel R] (hirrefl : ∀ a, ¬R a a) (hasymm : ∀ a b, R a b → ¬R b a)
    (hsorted : items.Pairwise R) (ha : a ∈ items) :
    a ∈ items.take size ↔ (items.filter fun b => decide (R b a)).length < size := by
  obtain ⟨before, after, rfl⟩ := List.append_of_mem ha
  obtain ⟨-, hafter, hacross⟩ := List.pairwise_append.1 hsorted
  have hfilter : (before ++ a :: after).filter (fun b => decide (R b a)) = before := by
    have hall : before.filter (fun b => decide (R b a)) = before :=
      List.filter_eq_self.2 fun b hb => decide_eq_true (hacross b hb a List.mem_cons_self)
    have hnone : after.filter (fun b => decide (R b a)) = [] := by
      refine List.filter_eq_nil_iff.2 fun b hb => ?_
      have hlater : R a b := (List.pairwise_cons.1 hafter).1 b hb
      simpa using hasymm a b hlater
    rw [List.filter_append, hall, List.filter_cons_of_neg (by simpa using hirrefl a), hnone, List.append_nil]
  rw [hfilter, List.take_append, List.mem_append]
  constructor
  · rintro (hmem | hmem)
    · exact absurd (hacross a (List.mem_of_mem_take hmem) a List.mem_cons_self) (hirrefl a)
    · by_contra hmany
      rw [Nat.sub_eq_zero_of_le (Nat.le_of_not_lt hmany)] at hmem
      cases hmem
  · intro hfew
    obtain ⟨k, hk⟩ : ∃ k, size - before.length = k + 1 := ⟨size - before.length - 1, by omega⟩
    rw [hk, List.take_succ_cons]
    exact .inr List.mem_cons_self

end Cut

end FastapiTemplate.Store
