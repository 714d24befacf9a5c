import LorawanServer.PacketQueue

/-!
# What every queue has, and what a call removes

In every state that pushes and calls of `getFirstExpired` reach, each vector
has items, all for its own address, and the address stands in the order of
service at least once for each of them. A call removes the items with the
counter of the first one, but the item it returns is the one in front of the
best of the others, because the loop counts from the first item and visits
from the second one on.
-/

namespace LorawanServer.QueueService

open CppRuntime Records PacketHandler PacketReplies StepRun PacketQueue

/-- Each address has items, they are its own, and it is served at least as
often as it has items. -/
structure Sound (queue : Queue) : Prop where
  /-- No vector is empty. -/
  noEmpty : NoEmpty queue
  /-- An address stands in the order of service for each of its items. -/
  counted : ∀ a,(itemsAt queue a).length≤queue.addrs.count a
  /-- Items stand under their own address. -/
  addressed : ∀ a,∀ item∈itemsAt queue a,getAddr item=a

/-- What does not depend on receptions and options stays when a duplicate is
absorbed. -/
theorem absorb_eq {β : Type*} {g : SemtechUDPPacketItem → β}
    (hg : ∀ (item : SemtechUDPPacketItem) (metadata : List RfmMetaData) (fopts : Vector UInt8 15) (fctrl : UInt8),
      g {item with packet := {item.packet with
        metadata := metadata
        header := {item.packet.header with
          fopts := fopts
          header := {item.packet.header.header with fctrl := fctrl}}}}=g item)
    (value queued : SemtechUDPPacketItem) : g (absorb value queued)=g queued := by
  rw [absorb]
  cases value.packet.metadata with
  | nil => rfl
  | cons reception rest => exact hg queued _ _ _

/-- The same for all items that a merge keeps. -/
theorem merge_map {β : Type*} {g : SemtechUDPPacketItem → β} {value : SemtechUDPPacketItem}
    (hg : ∀ queued,g (absorb value queued)=g queued) (items : List SemtechUDPPacketItem) :
    (merge value items).map g=items.map g := by
  apply List.lookmap_map_eq
  intro queued result hr
  split at hr
  · rw [←Option.some.inj hr,hg]
  · cases hr

/-- A push appends one item or none. -/
theorem pushItems_length (items : List SemtechUDPPacketItem) (item : SemtechUDPPacketItem) :
    (pushItems items item).length=items.length+if items.any (isDuplicate item) then 0 else 1 := by
  rw [pushItems]
  split_ifs
  · exact merge_length item items
  · rw [List.length_append,List.length_singleton]

/-- Items under their own address stay so after a push to that address. -/
theorem pushItems_addr {items : List SemtechUDPPacketItem} {item : SemtechUDPPacketItem}
    (h : ∀ queued∈items,getAddr queued=getAddr item) :
    ∀ queued∈pushItems items item,getAddr queued=getAddr item := by
  intro queued hq
  rw [pushItems] at hq
  split_ifs at hq
  · have hm : (merge item items).map getAddr=items.map getAddr :=
      merge_map (absorb_eq (fun _ _ _ _ => rfl) item) items
    have hi : getAddr queued∈items.map getAddr := hm ▸ List.mem_map_of_mem hq
    obtain ⟨other,ho,he⟩ := List.mem_map.mp hi
    rw [←he]
    exact h other ho
  · rcases List.mem_append.mp hq with hi | hi
    · exact h queued hi
    · rw [List.mem_singleton.mp hi]

/-- A push leaves no empty vector behind. -/
theorem push_noEmpty {queue : Queue} (h : NoEmpty queue) (item : SemtechUDPPacketItem) :
    NoEmpty (push queue item) := by
  intro a
  rcases push_cases queue item with ⟨he,-⟩ | ⟨items,hi,hd,hq⟩ | ⟨-,-,hq⟩
  · exact absurd he (h _)
  · rw [hq,packets_insert]
    split_ifs
    · intro hn
      have hl := merge_length item items
      rw [Option.some.inj hn,List.length_nil] at hl
      rw [List.eq_nil_of_length_eq_zero hl.symm] at hi
      exact h _ hi
    · exact h a
  · rw [hq,packets_insert]
    split_ifs
    · intro hn
      exact absurd (Option.some.inj hn) (List.append_ne_nil_of_right_ne_nil _ (List.cons_ne_nil _ _))
    · exact h a

/-- A push keeps the queue sound. -/
theorem push_sound {queue : Queue} (h : Sound queue) (item : SemtechUDPPacketItem) :
    Sound (push queue item) := by
  refine ⟨push_noEmpty h.noEmpty item,fun a => ?_,fun a => ?_⟩
  · have hc := h.counted a
    rw [itemsAt_push,addrs_push h.noEmpty]
    by_cases ha : getAddr item=a
    · subst ha
      rw [if_pos rfl,pushItems_length]
      split_ifs
      · exact hc
      · rw [List.count_append,List.count_singleton_self]
        exact Nat.add_le_add_right hc 1
    · rw [if_neg ha]
      split_ifs
      · exact hc
      · rw [List.count_append]
        exact hc.trans (Nat.le_add_right _ _)
  · rw [itemsAt_push]
    split_ifs with ha
    · subst ha
      exact pushItems_addr (h.addressed _)
    · exact h.addressed a

/-- A call keeps the queue sound: it takes one address and at least one item. -/
theorem getFirstExpired_sound {queue : Queue} (h : Sound queue) (t : Timeval) :
    Sound (getFirstExpired queue t).2 := by
  rcases getFirstExpired_cases queue t with hn | ⟨a,addrs,first,others,ha,hp,-,hq⟩
  · rw [hn]
    exact h
  · rw [hq]
    have hitems : itemsAt queue a=first::others := by rw [itemsAt,hp,Option.getD_some]
    refine ⟨removeFirst_noEmpty h.noEmpty a first others,fun b => ?_,fun b item hi => ?_⟩
    · have hc := h.counted b
      rw [ha] at hc
      rw [itemsAt,removeFirst_getD]
      split_ifs with hab
      · subst hab
        rw [hitems,List.length_cons,List.count_cons_self] at hc
        have hf : ((first::others).filter fun item => itemFcnt item≠itemFcnt first).length≤others.length := by
          rw [List.filter_cons_of_neg (by
            simp only [ne_eq,not_true_eq_false,decide_false,Bool.false_eq_true,not_false_eq_true])]
          exact List.length_filter_le _ _
        exact hf.trans (Nat.le_of_succ_le_succ hc)
      · rw [List.count_cons_of_ne hab] at hc
        exact hc
    · rw [itemsAt,removeFirst_getD] at hi
      split_ifs at hi with hab
      · rw [←hab]
        exact h.addressed a item (hitems ▸ (List.mem_filter.mp hi).1)
      · exact h.addressed b item hi

/-- Every call keeps the queue sound. -/
theorem queueStep_sound {queue : Queue} (h : Sound queue) (event : QueueEvent) :
    Sound (queueStep queue event) := by
  cases event with
  | push item => exact push_sound h item
  | getFirstExpired t => exact getFirstExpired_sound h t

/-- Nothing is queued in the new queue. -/
theorem itemsAt_empty (a : DEVADDR) : itemsAt Queue.empty a=[] :=
  congrArg (fun vector => Option.getD vector []) Std.TreeMap.getElem?_emptyc

/-- The new queue is sound. -/
theorem empty_sound : Sound Queue.empty := by
  have hn : ∀ a : DEVADDR,Queue.empty.packets[a]?=none := fun _ => Std.TreeMap.getElem?_emptyc
  refine ⟨fun a => ?_,fun a => ?_,fun a item hi => ?_⟩
  · rw [hn]
    exact (Option.some_ne_none _).symm
  · rw [itemsAt_empty]
    exact Nat.zero_le _
  · rw [itemsAt_empty] at hi
    exact absurd hi List.not_mem_nil

/-- A sound queue stays sound. -/
theorem run_sound {queue : Queue} (h : Sound queue) (events : List QueueEvent) :
    Sound (run queueStep queue events) := by
  refine run_invariant ?_ h
  intro event _ queue hs
  exact queueStep_sound hs event

/-- No queued item is stranded: in every reachable queue each address has items
and is served at least once for each of them. -/
theorem queued_items_served (events : List QueueEvent) (a : DEVADDR) (items : List SemtechUDPPacketItem)
    (h : (run queueStep Queue.empty events).packets[a]?=some items) :
    items≠[] ∧ items.length≤(run queueStep Queue.empty events).addrs.count a := by
  have hs := run_sound empty_sound events
  refine ⟨fun hn => hs.noEmpty a (hn ▸ h),?_⟩
  have hc := hs.counted a
  rwa [itemsAt,h,Option.getD_some] at hc

/-- One queued packet is served once. -/
theorem queued_items_served_single :
    [(⟨.replyMac,⟨0,250000⟩,SemtechUDPPacket.empty⟩ : SemtechUDPPacketItem)]≠[] ∧
      1≤(run queueStep Queue.empty [.push ⟨.replyMac,⟨0,250000⟩,SemtechUDPPacket.empty⟩]).addrs.count 0 :=
  queued_items_served [.push ⟨.replyMac,⟨0,250000⟩,SemtechUDPPacket.empty⟩] 0
    [⟨.replyMac,⟨0,250000⟩,SemtechUDPPacket.empty⟩] rfl

/-- An item that the selection loop can choose: it has the counter and a
gateway. -/
def Candidate (fcntFirst : UInt16) (item : SemtechUDPPacketItem) : Prop :=
  itemFcnt item=fcntFirst ∧ (bestGateway item.packet).2≠0

/-- A gateway is found only with a ratio above the least one. -/
theorem lowestFloat_lt_itemSnr {fcnt : UInt16} {item : SemtechUDPPacketItem} (h : Candidate fcnt item) :
    lowestFloat< itemSnr item := by
  have hfold : ∀ (receptions : List RfmMetaData) (best : ℚ×UInt64),
      lowestFloat≤best.1 → (best.2≠0 → lowestFloat<best.1) →
      (receptions.foldl (fun (best : ℚ×UInt64) reception =>
        if best.1<reception.lsnr then (reception.lsnr,reception.gatewayId) else best) best).2≠0 →
      lowestFloat<(receptions.foldl (fun (best : ℚ×UInt64) reception =>
        if best.1<reception.lsnr then (reception.lsnr,reception.gatewayId) else best) best).1 := by
    intro receptions
    induction receptions with
    | nil => exact fun best _ h => h
    | cons reception receptions ih =>
      intro best hle hlt
      rw [List.foldl_cons]
      split_ifs with hb
      · exact ih _ (hle.trans hb.le) (fun _ => hle.trans_lt hb)
      · exact ih _ hle hlt
  exact hfold item.packet.metadata _ le_rfl (fun hc => absurd rfl hc) h.2

/-- What the selection loop finds: nothing beats the ratio so far, or the
position is that of the first item with the greatest ratio. -/
def Selected (fcnt : UInt16) (items : List SemtechUDPPacketItem) (i idx : ℕ) (lsnr : ℚ) (result : ℕ) : Prop :=
  (result=idx ∧ ∀ item∈items,Candidate fcnt item → itemSnr item≤lsnr) ∨
    ∃ front best back,items=front++best::back ∧ Candidate fcnt best ∧ lsnr< itemSnr best ∧
      (∀ item∈front,Candidate fcnt item → itemSnr item< itemSnr best) ∧
      (∀ item∈back,Candidate fcnt item → itemSnr item≤ itemSnr best) ∧ result=i+front.length

/-- An item that is passed over moves the outcome by one position. -/
theorem Selected.skip {fcnt : UInt16} {item : SemtechUDPPacketItem} {items : List SemtechUDPPacketItem}
    {i idx result : ℕ} {lsnr : ℚ} (hle : Candidate fcnt item → itemSnr item≤lsnr)
    (h : Selected fcnt items (i+1) idx lsnr result) : Selected fcnt (item::items) i idx lsnr result := by
  rcases h with ⟨hs,ha⟩ | ⟨front,best,back,hi,hc,hl,hf,hb,hs⟩
  · left
    refine ⟨hs,fun other ho => ?_⟩
    rcases List.mem_cons.mp ho with rfl | ho
    · exact hle
    · exact ha other ho
  · right
    refine ⟨item::front,best,back,by rw [hi,List.cons_append],hc,hl,fun other ho => ?_,hb,?_⟩
    · rcases List.mem_cons.mp ho with rfl | ho
      · exact fun hco => (hle hco).trans_lt hl
      · exact hf other ho
    · rw [hs,List.length_cons]
      omega

/-- An item that is taken is the best one unless a later one beats it. -/
theorem Selected.take {fcnt : UInt16} {item : SemtechUDPPacketItem} {items : List SemtechUDPPacketItem}
    {i idx result : ℕ} {lsnr : ℚ} (hc : Candidate fcnt item) (hlt : lsnr< itemSnr item)
    (h : Selected fcnt items (i+1) i (itemSnr item) result) :
    Selected fcnt (item::items) i idx lsnr result := by
  right
  rcases h with ⟨hs,ha⟩ | ⟨front,best,back,hi,hb,hl,hf,hback,hs⟩
  · exact ⟨[],item,items,rfl,hc,hlt,fun other ho => absurd ho List.not_mem_nil,ha,hs⟩
  · refine ⟨item::front,best,back,by rw [hi,List.cons_append],hb,hlt.trans hl,fun other ho => ?_,hback,?_⟩
    · rcases List.mem_cons.mp ho with rfl | ho
      · exact fun _ => hl
      · exact hf other ho
    · rw [hs,List.length_cons]
      omega

/-- The selection loop finds the first item with the greatest ratio. -/
theorem selectIndex_selected (fcnt : UInt16) (items : List SemtechUDPPacketItem) (i idx : ℕ) (lsnr : ℚ) :
    Selected fcnt items i idx lsnr (selectIndex fcnt items i idx lsnr) := by
  induction items generalizing i idx lsnr with
  | nil => exact Or.inl ⟨rfl,fun item hi => absurd hi List.not_mem_nil⟩
  | cons item items ih =>
    rw [selectIndex]
    split_ifs with hf hg
    · exact (ih _ _ _).skip fun hc => absurd hc.1 hf
    · exact (ih _ _ _).take ⟨not_not.mp hf,hg.1⟩ hg.2
    · exact (ih _ _ _).skip fun hc => not_lt.mp fun hl => hg ⟨hc.2,hl⟩

/-- What `getFirstExpired` returns: the first item when no other one is a
candidate, else the item in front of the best candidate. -/
theorem selectItem_cases (first : SemtechUDPPacketItem) (others : List SemtechUDPPacketItem) :
    (selectItem first others=first ∧ ∀ item∈others,¬Candidate (itemFcnt first) item) ∨
      ∃ front best back,others=front++best::back ∧ Candidate (itemFcnt first) best ∧
        (∀ item∈front,Candidate (itemFcnt first) item → itemSnr item< itemSnr best) ∧
        (∀ item∈back,Candidate (itemFcnt first) item → itemSnr item≤ itemSnr best) ∧
        selectItem first others=(first::front).getLast (List.cons_ne_nil _ _) := by
  rcases selectIndex_selected (itemFcnt first) others 0 0 lowestFloat with
    ⟨hs,ha⟩ | ⟨front,best,back,hi,hc,-,hf,hb,hs⟩
  · left
    rw [selectItem,hs]
    exact ⟨rfl,fun item hi hc => absurd (ha item hi hc) (not_le.mpr (lowestFloat_lt_itemSnr hc))⟩
  · right
    refine ⟨front,best,back,hi,hc,hf,hb,?_⟩
    rw [selectItem,hs,hi,Nat.zero_add,←List.cons_append,List.getD_append _ _ _ _ (by
      rw [List.length_cons]; exact Nat.lt_succ_self _),List.getLast_eq_getElem,
      List.getD_eq_getElem _ _ (by rw [List.length_cons]; exact Nat.lt_succ_self _)]
    rfl

/-- The returned item is one of the address. -/
theorem selectItem_mem (first : SemtechUDPPacketItem) (others : List SemtechUDPPacketItem) :
    selectItem first others∈first::others := by
  rcases selectItem_cases first others with ⟨hs,-⟩ | ⟨front,best,back,hi,-,-,-,hs⟩
  · rw [hs]
    exact List.mem_cons_self
  · rw [hs,hi,←List.cons_append]
    exact List.mem_append_left _ (List.getLast_mem _)

/-- Two items stand for one packet. -/
def SamePacket (item other : SemtechUDPPacketItem) : Prop :=
  getAddr item=getAddr other ∧ itemPort item=itemPort other ∧ itemFcnt item=itemFcnt other

instance (item other : SemtechUDPPacketItem) : Decidable (SamePacket item other) :=
  inferInstanceAs (Decidable (getAddr item=getAddr other ∧ itemPort item=itemPort other ∧
    itemFcnt item=itemFcnt other))

/-- The ratio of an item is the greatest one. Items without a gateway have none. -/
def HasGreatestSnr (r : SemtechUDPPacketItem) (items : List SemtechUDPPacketItem) : Prop :=
  ∀ item∈items,(bestGateway item.packet).2≠0 → (bestGateway r.packet).2≠0 ∧ itemSnr item≤ itemSnr r

/-- No later call returns the item again unless its packet is pushed again. -/
def NeverAgain (queue : Queue) (r : SemtechUDPPacketItem) : Prop :=
  ∀ events : List QueueEvent,(∀ item,.push item∈events → ¬SamePacket item r) →
    ∀ t,(getFirstExpired (run queueStep queue events) t).1≠some r

/-- The returned item is one of those that the call removed from the address in
front, and all others stay. -/
structure Taken (queue queue' : Queue) (a : DEVADDR) (first r : SemtechUDPPacketItem) : Prop where
  /-- The item was queued for the address. -/
  queued : r∈itemsAt queue a
  /-- It is a packet of that device. -/
  addressed : getAddr r=a
  /-- It has the counter of the first item. -/
  counter : itemFcnt r=itemFcnt first
  /-- The items with that counter are gone, the others keep their order. -/
  removed : itemsAt queue' a=(itemsAt queue a).filter fun item => itemFcnt item≠ itemFcnt first
  /-- Other devices keep their items. -/
  kept : ∀ b,b≠a → itemsAt queue' b=itemsAt queue b
  /-- The item has the best gateway of those removed. -/
  greatest : HasGreatestSnr r ((itemsAt queue a).filter fun item => itemFcnt item=itemFcnt first)
  /-- The item does not come back. -/
  neverAgain : NeverAgain queue' r

/-- What `getFirstExpired` returns is what it removes. -/
def ReturnsRemoved (queue : Queue) (t : Timeval) : Prop :=
  ∀ r queue',getFirstExpired queue t=(some r,queue') →
    ∃ a addrs first others,queue.addrs=a::addrs ∧ queue.packets[a]?=some (first::others) ∧
      Taken queue queue' a first r

/-- The items of an address are in a favourable order: no item behind the first
one is a candidate, or the second one is the best of them and the first one has
a gateway that is at least as good. -/
def FirstIsBest (first : SemtechUDPPacketItem) (others : List SemtechUDPPacketItem) : Prop :=
  (∀ item∈others,¬Candidate (itemFcnt first) item) ∨
    ∃ second rest,others=second::rest ∧ Candidate (itemFcnt first) second ∧
      (∀ item∈rest,Candidate (itemFcnt first) item → itemSnr item≤ itemSnr second) ∧
      (bestGateway first.packet).2≠0 ∧ itemSnr second≤ itemSnr first

/-- The condition on the queue before a call: if the address in front is due,
its items are in a favourable order. -/
def HeadInOrder (queue : Queue) (t : Timeval) : Prop :=
  ∀ a addrs first others,queue.addrs=a::addrs → queue.packets[a]?=some (first::others) →
    diffMicroSeconds t first.time2send≤timeLeadMicroseconds → FirstIsBest first others

/-- Pushes of other packets do not bring a packet back. -/
theorem pushItems_absent {items : List SemtechUDPPacketItem} {item : SemtechUDPPacketItem} {port : UInt8}
    {fcnt : UInt16} (h : ∀ queued∈items,¬(itemPort queued=port ∧ itemFcnt queued=fcnt))
    (hi : ¬(itemPort item=port ∧ itemFcnt item=fcnt)) :
    ∀ queued∈pushItems items item,¬(itemPort queued=port ∧ itemFcnt queued=fcnt) := by
  intro queued hq
  rw [pushItems] at hq
  split_ifs at hq
  · let g : SemtechUDPPacketItem → UInt8×UInt16 := fun item => (itemPort item,itemFcnt item)
    have hm : (merge item items).map g=items.map g :=
      merge_map (absorb_eq (fun _ _ _ _ => rfl) item) items
    have hg : g queued∈items.map g := hm ▸ List.mem_map_of_mem hq
    obtain ⟨other,ho,he⟩ := List.mem_map.mp hg
    obtain ⟨hp,hf⟩ := Prod.mk.inj he
    rw [←hp,←hf]
    exact h other ho
  · rcases List.mem_append.mp hq with hq | hq
    · exact h queued hq
    · rw [List.mem_singleton.mp hq]
      exact hi

/-- The packet is not queued. -/
def Absent (r : SemtechUDPPacketItem) (queue : Queue) : Prop :=
  ∀ item∈itemsAt queue (getAddr r),¬(itemPort item=itemPort r ∧ itemFcnt item=itemFcnt r)

/-- A call that does not push the packet does not bring it back. -/
theorem queueStep_absent {queue : Queue} {r : SemtechUDPPacketItem} (h : Absent r queue) {event : QueueEvent}
    (he : ∀ item,event=.push item → ¬SamePacket item r) : Absent r (queueStep queue event) := by
  cases event with
  | push item =>
    rw [queueStep,Absent,itemsAt_push]
    split_ifs with ha
    · exact pushItems_absent h fun hc => he item rfl ⟨ha,hc.1,hc.2⟩
    · exact h
  | getFirstExpired t =>
    rw [queueStep]
    rcases getFirstExpired_cases queue t with hn | ⟨a,addrs,first,others,-,hp,-,hq⟩
    · rw [hn]
      exact h
    · rw [hq]
      intro item hi
      rw [itemsAt,removeFirst_getD] at hi
      split_ifs at hi with ha
      · refine h item ?_
        rw [itemsAt,←ha,hp,Option.getD_some]
        exact (List.mem_filter.mp hi).1
      · exact h item hi

/-- A packet that is not queued comes back only when it is pushed. -/
theorem neverAgain_of_absent {queue : Queue} {r : SemtechUDPPacketItem} (hs : Sound queue)
    (h : Absent r queue) : NeverAgain queue r := by
  intro events he t hr
  have hsound : Sound (run queueStep queue events) := run_sound hs events
  have habsent : Absent r (run queueStep queue events) := by
    refine run_invariant ?_ h
    intro event hm queue hq
    exact queueStep_absent hq fun item hi => he item (hi ▸ hm)
  rcases getFirstExpired_cases (run queueStep queue events) t with hn | ⟨a,addrs,first,others,-,hp,-,hq⟩
  · rw [hn] at hr
    cases hr
  · rw [hq] at hr
    have hm : r∈itemsAt (run queueStep queue events) a := by
      rw [itemsAt,hp,Option.getD_some,←Option.some.inj hr]
      exact selectItem_mem first others
    have ha : getAddr r=a := hsound.addressed a r hm
    exact habsent r (ha.symm ▸ hm) ⟨rfl,rfl⟩

/-- A call that takes the best item of the packet in front has its items in a
favourable order. -/
theorem firstIsBest_of_greatest {first : SemtechUDPPacketItem} {others : List SemtechUDPPacketItem}
    (hf : itemFcnt (selectItem first others)=itemFcnt first)
    (hg : HasGreatestSnr (selectItem first others)
      ((first::others).filter fun item => itemFcnt item=itemFcnt first)) : FirstIsBest first others := by
  rcases selectItem_cases first others with ⟨-,hn⟩ | ⟨front,best,back,hi,hc,hfront,hback,hs⟩
  · exact Or.inl hn
  · right
    have hbest : best∈(first::others).filter fun item => itemFcnt item=itemFcnt first := by
      rw [hi]
      simp only [List.mem_filter,List.mem_cons,List.mem_append,true_or,or_true,true_and,decide_eq_true_eq]
      exact hc.1
    obtain ⟨hgw,hle⟩ := hg best hbest hc.2
    rw [hs] at hf hgw hle
    cases front with
    | nil => exact ⟨best,back,hi,hc,hback,hgw,hle⟩
    | cons second front =>
      -- the item in front of the best one would be a candidate that is as good
      have hm : (first::second::front).getLast (List.cons_ne_nil _ _)∈second::front := by
        rw [List.getLast_cons (List.cons_ne_nil _ _)]
        exact List.getLast_mem _
      exact absurd (hfront _ hm ⟨hf,hgw⟩) (not_lt.mpr hle)

/-- Items in a favourable order make the call take the best one of the packet in
front. -/
theorem greatest_of_firstIsBest {first : SemtechUDPPacketItem} {others : List SemtechUDPPacketItem}
    (h : FirstIsBest first others) :
    itemFcnt (selectItem first others)=itemFcnt first ∧
      HasGreatestSnr (selectItem first others)
        ((first::others).filter fun item => itemFcnt item=itemFcnt first) := by
  rcases selectItem_cases first others with ⟨hs,hn⟩ | ⟨front,best,back,hi,hc,hfront,hback,hs⟩
  · rw [hs]
    refine ⟨rfl,fun item hm hgw => ?_⟩
    obtain ⟨hm,hf⟩ := List.mem_filter.mp hm
    rcases List.mem_cons.mp hm with rfl | hm
    · exact ⟨hgw,le_rfl⟩
    · exact absurd ⟨of_decide_eq_true hf,hgw⟩ (hn item hm)
  · rcases h with hn | ⟨second,rest,ho,hcs,hrest,hgw,hle⟩
    · exact absurd hc (hn best (hi ▸ List.mem_append_right _ List.mem_cons_self))
    · -- the second item is the best one, so the first one is returned
      have hfirst : (first::front).getLast (List.cons_ne_nil _ _)=first := by
        cases front with
        | nil => rfl
        | cons head front =>
          rw [ho,List.cons_append] at hi
          obtain ⟨rfl,hr⟩ := List.cons.inj hi
          have hb : best∈rest := hr ▸ List.mem_append_right _ List.mem_cons_self
          exact absurd (hfront second List.mem_cons_self hcs) (not_lt.mpr (hrest best hb hc))
      rw [hs,hfirst]
      refine ⟨rfl,fun item hm hgi => ?_⟩
      obtain ⟨hm,hf⟩ := List.mem_filter.mp hm
      rcases List.mem_cons.mp hm with rfl | hm
      · exact ⟨hgi,le_rfl⟩
      · refine ⟨hgw,le_trans ?_ hle⟩
        rw [ho] at hm
        rcases List.mem_cons.mp hm with rfl | hm
        · exact le_rfl
        · exact hrest item hm ⟨of_decide_eq_true hf,hgi⟩

/-- In every reachable queue a call returns one of the items it removes, and the
best one, exactly when the items of the address in front are in a favourable
order. -/
theorem getFirstExpired_returns_removed_iff (events : List QueueEvent) (t : Timeval) :
    ReturnsRemoved (run queueStep Queue.empty events) t ↔
      HeadInOrder (run queueStep Queue.empty events) t := by
  have hs : Sound (run queueStep Queue.empty events) := run_sound empty_sound events
  generalize run queueStep Queue.empty events=queue at hs
  constructor
  · intro h a addrs first others ha hp hd
    obtain ⟨a',addrs',first',others',ha',hp',htaken⟩ := h _ _ (getFirstExpired_due ha hp hd)
    rw [ha] at ha'
    obtain ⟨rfl,rfl⟩ := List.cons.inj ha'
    rw [hp] at hp'
    obtain ⟨rfl,rfl⟩ := List.cons.inj (Option.some.inj hp')
    refine firstIsBest_of_greatest htaken.counter ?_
    have hg := htaken.greatest
    rwa [itemsAt,hp,Option.getD_some] at hg
  · intro h r queue' hr
    rcases getFirstExpired_cases queue t with hn | ⟨a,addrs,first,others,ha,hp,hd,hq⟩
    · rw [hn] at hr
      exact absurd (Prod.mk.inj hr).1.symm (Option.some_ne_none _)
    · obtain ⟨hf,hg⟩ := greatest_of_firstIsBest (h a addrs first others ha hp hd)
      have hsound := getFirstExpired_sound hs t
      rw [hq] at hr hsound
      obtain ⟨hsome,rfl⟩ := Prod.mk.inj hr
      have hselect : selectItem first others=r := Option.some.inj hsome
      rw [hselect] at hf hg
      have hitems : itemsAt queue a=first::others := by rw [itemsAt,hp,Option.getD_some]
      have hm : r∈itemsAt queue a := by
        rw [hitems,←hselect]
        exact selectItem_mem first others
      have haddr : getAddr r=a := hs.addressed a r hm
      have hremoved : itemsAt ⟨removeFirst queue.packets a first others,addrs⟩ a=
          (itemsAt queue a).filter fun item => itemFcnt item≠ itemFcnt first := by
        rw [hitems,itemsAt,removeFirst_getD,if_pos rfl]
      refine ⟨a,addrs,first,others,ha,hp,hm,haddr,hf,hremoved,?_,?_,?_⟩
      · intro b hb
        rw [itemsAt,removeFirst_getD,if_neg hb.symm]
        rfl
      · rw [hitems]
        exact hg
      · refine neverAgain_of_absent hsound fun item hi hc => ?_
        rw [haddr,hremoved] at hi
        exact of_decide_eq_true (List.mem_filter.mp hi).2 (hc.2.trans hf)

/-- A packet of the device with address 1 that one gateway reported, due a
quarter of a second after the start. -/
def sampleItem (port : UInt8) (fcnt : UInt16) : SemtechUDPPacketItem :=
  ⟨.replyMac,⟨0,250000⟩,{SemtechUDPPacket.empty with
    header := ⟨⟨0x40,1,0,fcnt⟩,Vector.replicate 15 0,port⟩
    metadata := [{RfmMetaData.initial 0 0 with gatewayId := 1}]}⟩

/-- Three packets of which the first and the last have one counter. -/
def sampleQueue : Queue :=
  run queueStep Queue.empty [.push (sampleItem 1 1),.push (sampleItem 1 2),.push (sampleItem 2 1)]

/-- The packet between the two is returned, which stays in the queue. -/
theorem getFirstExpired_returns_kept : ¬ReturnsRemoved sampleQueue ⟨1,0⟩ := by
  intro h
  have hr : (getFirstExpired sampleQueue ⟨1,0⟩).1=some (sampleItem 1 2) := by decide +kernel
  obtain ⟨a,addrs,first,others,ha,hp,htaken⟩ := h (sampleItem 1 2) _ (Prod.ext hr rfl)
  obtain ⟨rfl,-⟩ := List.cons.inj ha
  obtain ⟨rfl,-⟩ := List.cons.inj (Option.some.inj hp)
  exact absurd htaken.counter (by decide)

end LorawanServer.QueueService
