import Mathlib

/-!
# A queue kept as an order of keys and a bucket for each key

A first in, first out queue can be stored as the list of the keys of its items
in the order of arrival and, for each key, the items with that key in the order
of arrival. The two parts represent one list of items: appending, replacing an
item by another one with its key, and taking the oldest item act on the list as
they do on the parts.
-/

namespace LorawanServer.KeyedFifo

variable {α κ : Type*} [DecidableEq κ]

/-- Items with the key in the order of arrival. -/
def withKey (key : α → κ) (k : κ) (items : List α) : List α := items.filter fun x => key x=k

/-- The first item belongs to the bucket of its key. -/
theorem withKey_cons (key : α → κ) (k : κ) (x : α) (items : List α) :
    withKey key k (x::items)=if key x=k then x::withKey key k items else withKey key k items := by
  simp only [withKey,List.filter_cons,decide_eq_true_eq]

/-- The order of keys and the buckets stand for the list of items. -/
structure Represents (key : α → κ) (order : List κ) (bucket : κ → List α) (items : List α) : Prop where
  /-- Keys in the order of arrival. -/
  order_eq : order=items.map key
  /-- Items of a key in the order of arrival. -/
  bucket_eq : ∀ k,bucket k=withKey key k items

variable {key : α → κ} {order : List κ} {bucket : κ → List α} {items : List α}

/-- Nothing is queued. -/
theorem Represents.nil (h : ∀ k,bucket k=[]) : Represents key [] bucket [] where
  order_eq := rfl
  bucket_eq := h

/-- An item of the list is in the bucket of its key. -/
theorem Represents.mem_bucket (h : Represents key order bucket items) {x : α} {k : κ} :
    x∈bucket k ↔ x∈items ∧ key x=k := by
  rw [h.bucket_eq,withKey,List.mem_filter,decide_eq_true_eq]

/-- A key has items exactly when it stands in the order. -/
theorem Represents.mem_order (h : Represents key order bucket items) {k : κ} :
    k∈order ↔ bucket k≠[] := by
  rw [h.order_eq,List.mem_map,List.ne_nil_iff_exists_cons]
  constructor
  · intro ⟨x,hx,hk⟩
    exact List.exists_cons_of_ne_nil (List.ne_nil_of_mem (h.mem_bucket.mpr ⟨hx,hk⟩))
  · intro ⟨x,rest,hx⟩
    exact ⟨x,h.mem_bucket.mp (hx ▸ List.mem_cons_self)⟩

/-- A new item goes to the end of both parts. -/
theorem Represents.append (h : Represents key order bucket items) {bucket' : κ → List α} {x : α}
    (hb : ∀ k,bucket' k=if key x=k then bucket k++[x] else bucket k) :
    Represents key (order++[key x]) bucket' (items++[x]) where
  order_eq := by rw [h.order_eq,List.map_append,List.map_singleton]
  bucket_eq := by
    intro k
    have hs : withKey key k [x]=if key x=k then [x] else [] := withKey_cons key k x []
    rw [hb,withKey,List.filter_append,←withKey,←withKey,hs,←h.bucket_eq]
    split_ifs
    · rfl
    · rw [List.append_nil]

/-- Replacing the first item that an operation accepts acts on its bucket
alone. -/
theorem withKey_lookmap {f : α → Option α} (hf : ∀ x y,f x=some y → key y=key x) (a k : κ) (items : List α) :
    withKey key k (items.lookmap fun x => if key x=a then f x else none)=
      if a=k then (withKey key k items).lookmap f else withKey key k items := by
  induction items with
  | nil =>
    split_ifs
    · rfl
    · rfl
  | cons x items ih =>
    by_cases hx : key x=a
    · cases hfx : f x with
      | none =>
        rw [List.lookmap_cons_none _ _ (by rw [if_pos hx,hfx]),withKey_cons,withKey_cons,ih]
        split_ifs
        · rw [List.lookmap_cons_none _ _ hfx]
        · rfl
        · rfl
        · rfl
      | some y =>
        rw [List.lookmap_cons_some _ _ (by rw [if_pos hx,hfx]),withKey_cons,withKey_cons,hf x y hfx,hx]
        split_ifs
        · rw [List.lookmap_cons_some _ _ hfx]
        · rfl
    · rw [List.lookmap_cons_none _ _ (by rw [if_neg hx]),withKey_cons,withKey_cons,ih]
      split_ifs with hk ha
      · exact absurd (hk.trans ha.symm) hx
      · rfl
      · rfl
      · rfl

/-- Replacing one item of a bucket by another one with its key. -/
theorem Represents.lookmap (h : Represents key order bucket items) {f : α → Option α}
    (hf : ∀ x y,f x=some y → key y=key x) {a : κ} {bucket' : κ → List α}
    (hb : ∀ k,bucket' k=if a=k then (bucket k).lookmap f else bucket k) :
    Represents key order bucket' (items.lookmap fun x => if key x=a then f x else none) where
  order_eq := by
    rw [h.order_eq]
    refine (List.lookmap_map_eq _ key ?_ items).symm
    intro x y hy
    split_ifs at hy
    · exact (hf x y hy).symm
    · cases hy
  bucket_eq := by
    intro k
    rw [hb,withKey_lookmap hf,h.bucket_eq]

/-- The oldest item is the first one in the bucket of the key in front. -/
theorem Represents.front {x : α} {rest : List α} (h : Represents key order bucket (x::rest)) :
    order=key x::rest.map key ∧ bucket (key x)=x::withKey key (key x) rest := by
  refine ⟨h.order_eq,?_⟩
  rw [h.bucket_eq,withKey_cons,if_pos rfl]

/-- Taking the oldest item from both parts. -/
theorem Represents.tail {k : κ} {x : α} {rest : List α} (h : Represents key (k::order) bucket (x::rest))
    {bucket' : κ → List α} (hb : ∀ j,bucket' j=if k=j then (bucket j).tail else bucket j) :
    Represents key order bucket' rest where
  order_eq := (List.cons.inj h.order_eq).2
  bucket_eq := by
    have hk : k=key x := (List.cons.inj h.order_eq).1
    intro j
    rw [hb,h.bucket_eq,withKey_cons,←hk]
    split_ifs
    · rw [List.tail_cons]
    · rfl

end LorawanServer.KeyedFifo
