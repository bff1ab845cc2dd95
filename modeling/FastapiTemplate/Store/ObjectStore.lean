import Mathlib.Data.List.Pairwise
import Mathlib.Data.List.Basic
import Mathlib.Order.Lattice

/-!
# Object stores

The keys of a bucket are listed in their order, a page at a time. A page is asked for when the one before it has been
worked through, and starts behind the last key of it; what is done with a key may change the bucket meanwhile.
`paginate_eq` says that this is the same as working through a list of the keys made before, if nothing is done to the
keys that are still to come.
-/

namespace FastapiTemplate.Store

variable {α σ : Type} [LinearOrder α]

/-- The keys of the objects. -/
structure Bucket (α : Type) [LinearOrder α] where
  keys : List α
  sorted : keys.Pairwise (· < ·)

namespace Bucket

def empty : Bucket α where
  keys := []
  sorted := .nil

/-- An object is written, and the one that had its key is replaced. -/
def put (b : Bucket α) (key : α) : Bucket α where
  keys := b.keys.filter (· < key) ++ key :: b.keys.filter (key < ·)
  sorted := by
    refine List.pairwise_append.2 ⟨b.sorted.filter _, List.pairwise_cons.2 ⟨?_, b.sorted.filter _⟩, ?_⟩
    · intro k hk
      exact of_decide_eq_true (List.mem_filter.1 hk).2
    · intro j hj k hk
      have hbelow : j < key := of_decide_eq_true (List.mem_filter.1 hj).2
      rcases List.mem_cons.1 hk with rfl | hk
      · exact hbelow
      · exact hbelow.trans (of_decide_eq_true (List.mem_filter.1 hk).2)

/-- An object is deleted. -/
def erase (b : Bucket α) (key : α) : Bucket α where
  keys := b.keys.filter (· ≠ key)
  sorted := b.sorted.filter _

/-- The wanted keys behind a key, or all of them. -/
def behind (b : Bucket α) (wanted : α → Bool) (token : Option α) : List α :=
  b.keys.filter fun k => wanted k && token.all (· < k)

end Bucket

/-- Works through the pages of a listing; a page has as many keys as its size says, and the last one all that are left.
`view` is the bucket in the state. -/
def paginate (view : σ → Bucket α) (wanted : α → Bool) (visit : σ → α → σ) : List ℕ → Option α → σ → σ
  | [], token, s => ((view s).behind wanted token).foldl visit s
  | size :: sizes, token, s =>
    let page := ((view s).behind wanted token).take size
    paginate view wanted visit sizes (page.getLast?.or token) (page.foldl visit s)

section Listing

variable {b : Bucket α} {wanted : α → Bool} {token : Option α} {key j k : α} {view : σ → Bucket α} {visit : σ → α → σ}
  {page rest : List α} {s : σ}

@[simp] lemma Bucket.mem_put : k ∈ (b.put key).keys ↔ k = key ∨ k ∈ b.keys := by
  have hcases : k ∈ b.keys → k < key ∨ k = key ∨ key < k := fun _ => lt_trichotomy k key
  simp only [Bucket.put, List.mem_append, List.mem_cons, List.mem_filter, decide_eq_true_eq]
  constructor
  · rintro (⟨hk, -⟩ | rfl | ⟨hk, -⟩)
    · exact .inr hk
    · exact .inl rfl
    · exact .inr hk
  · rintro (rfl | hk)
    · exact .inr (.inl rfl)
    · rcases hcases hk with hlt | rfl | hgt
      · exact .inl ⟨hk, hlt⟩
      · exact .inr (.inl rfl)
      · exact .inr (.inr ⟨hk, hgt⟩)

lemma Bucket.sorted_behind (b : Bucket α) (wanted : α → Bool) (token : Option α) :
    (b.behind wanted token).Pairwise (· < ·) := b.sorted.filter _

/-- Behind a key further on. -/
lemma Bucket.behind_of_le (h : token.all (· ≤ k) = true) :
    b.behind wanted (some k) = (b.behind wanted token).filter (k < ·) := by
  unfold Bucket.behind
  rw [List.filter_filter]
  refine List.filter_congr fun i _ => ?_
  cases token with
  | none => simp [Bool.and_comm]
  | some j =>
    have hjk : j ≤ k := by simpa using h
    have himp : k < i → j < i := hjk.trans_lt
    by_cases hki : k < i <;> simp [hki, himp]

/-- Behind the last key of a page is what the page leaves. -/
lemma Bucket.behind_getLast? (hpage : b.behind wanted token = page ++ rest) :
    b.behind wanted (page.getLast?.or token) = rest := by
  rcases List.eq_nil_or_concat' page with rfl | ⟨init, k, rfl⟩
  · exact hpage
  · have hsorted := b.sorted_behind wanted token
    rw [hpage, List.append_assoc, List.pairwise_append] at hsorted
    obtain ⟨-, hsorted, hinit⟩ := hsorted
    have hrest := (List.pairwise_cons.1 hsorted).1
    have htoken : token.all (· ≤ k) = true := by
      have hk : k ∈ b.behind wanted token := by
        rw [hpage]
        simp
      have hk := (List.mem_filter.1 hk).2
      rw [Bool.and_eq_true] at hk
      cases token with
      | none => rfl
      | some j => exact decide_eq_true (of_decide_eq_true hk.2).le
    rw [List.getLast?_concat, Option.some_or, Bucket.behind_of_le htoken, hpage, List.append_assoc, List.filter_append,
      List.filter_eq_nil_iff.2 fun i hi => by simpa using (hinit i hi k (by simp)).le, List.nil_append,
      List.singleton_append, List.filter_cons_of_neg (by simp)]
    exact List.filter_eq_self.2 fun i hi => by simpa using hrest i hi

@[simp] lemma Bucket.behind_erase : (b.erase k).behind wanted (some k) = b.behind wanted (some k) := by
  unfold Bucket.behind Bucket.erase
  dsimp only
  rw [List.filter_filter]
  refine List.filter_congr fun i _ => ?_
  have himp : k < i → i ≠ k := fun h => h.ne'
  by_cases hki : k < i <;> simp [hki, himp]

/-- What is done with the keys of a page leaves those behind it. -/
lemma behind_foldl (hvisit : ∀ s k, (view (visit s k)).behind wanted (some k) = (view s).behind wanted (some k))
    (hpage : ∀ j ∈ page, j ≤ k) :
    (view (page.foldl visit s)).behind wanted (some k) = (view s).behind wanted (some k) := by
  induction page generalizing s with
  | nil => rfl
  | cons j page ih =>
    have hj : (some j).all (· ≤ k) = true := decide_eq_true (hpage j List.mem_cons_self)
    rw [List.foldl_cons, ih fun i hi => hpage i (List.mem_cons_of_mem j hi), Bucket.behind_of_le hj, hvisit,
      ← Bucket.behind_of_le hj]

/-- **The pages do not matter** if nothing is done to the keys that are still to come. -/
theorem paginate_eq (hvisit : ∀ s k, (view (visit s k)).behind wanted (some k) = (view s).behind wanted (some k))
    (sizes : List ℕ) :
    paginate view wanted visit sizes token s = ((view s).behind wanted token).foldl visit s := by
  induction sizes generalizing token s with
  | nil => rfl
  | cons size sizes ih =>
    obtain ⟨page, hpage⟩ : ∃ page, page = ((view s).behind wanted token).take size := ⟨_, rfl⟩
    obtain ⟨rest, hrest⟩ : ∃ rest, rest = ((view s).behind wanted token).drop size := ⟨_, rfl⟩
    have hsplit : (view s).behind wanted token = page ++ rest := by
      rw [hpage, hrest, List.take_append_drop]
    have hnext : (view (page.foldl visit s)).behind wanted (page.getLast?.or token) = rest := by
      rw [← Bucket.behind_getLast? hsplit]
      rcases List.eq_nil_or_concat' page with hnil | ⟨init, k, hconcat⟩
      · rw [hnil]
        rfl
      · have hsorted := (view s).sorted_behind wanted token
        rw [hsplit] at hsorted
        have hle : ∀ j ∈ page, j ≤ k := by
          intro j hj
          have hsorted := (List.pairwise_append.1 hsorted).1
          rw [hconcat] at hj hsorted
          rcases List.mem_append.1 hj with hj | hj
          · exact ((List.pairwise_append.1 hsorted).2.2 j hj k (List.mem_singleton_self k)).le
          · exact (List.mem_singleton.1 hj).le
        have hlast : page.getLast?.or token = some k := by
          rw [hconcat, List.getLast?_concat, Option.some_or]
        rw [hlast]
        exact behind_foldl hvisit hle
    unfold paginate
    rw [← hpage]
    dsimp only
    rw [ih, hnext, hsplit, List.foldl_append]

/-- Nothing is done to the bucket. -/
lemma paginate_const (b : Bucket α) (sizes : List ℕ) :
    paginate (fun _ => b) wanted visit sizes token s = (b.behind wanted token).foldl visit s := by
  refine paginate_eq ?_ sizes
  intro s k
  rfl

end Listing

end FastapiTemplate.Store
