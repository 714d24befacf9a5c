import LorawanServer.PacketReplies
import LorawanServer.StepRun

/-!
# The packet queue

`PacketQueue` keeps the items of each device in order of arrival and, apart
from them, the addresses in the order in which they are served. `push` merges
an item into a queued one with the same port and counter; `getFirstExpired`
serves the address in front and removes all its items with one counter. The
mutex makes each of the two one step. Log texts and the wake-up stay outside.
-/

namespace LorawanServer.PacketQueue

open CppRuntime Records PacketHandler PacketReplies StepRun

/-- `SemtechUDPPacketItem::getAddr`. -/
def getAddr (item : SemtechUDPPacketItem) : DEVADDR := item.packet.header.header.devaddr

/-- Port of the packet of an item. -/
def itemPort (item : SemtechUDPPacketItem) : UInt8 := item.packet.header.fport

/-- Frame counter of the packet of an item. -/
def itemFcnt (item : SemtechUDPPacketItem) : UInt16 := item.packet.header.header.fcnt

/-- The containers of `PacketQueue`. -/
structure Queue where
  /-- Items of each device in order of arrival. -/
  packets : Std.TreeMap DEVADDR (List SemtechUDPPacketItem)
  /-- Addresses in the order in which they are served. -/
  addrs : List DEVADDR

/-- The queue of a new `PacketQueue`. -/
def Queue.empty : Queue := ⟨∅,[]⟩

/-- The test of `push` for a packet that is queued already. -/
def isDuplicate (value queued : SemtechUDPPacketItem) : Bool :=
  decide (itemPort queued=itemPort value ∧ itemFcnt queued=itemFcnt value)

/-- What a queued item takes from a duplicate: its first reception, with the
gateway of its prefix, and its options. -/
def absorb (value queued : SemtechUDPPacketItem) : SemtechUDPPacketItem :=
  match value.packet.metadata with
  | [] => queued
  | reception::_ => {queued with packet := {queued.packet with
      metadata := queued.packet.metadata++[{reception with gatewayId := value.packet.gwPrefix.mac}]
      header := {queued.packet.header with
        fopts := value.packet.header.fopts
        header := {queued.packet.header.header with
          fctrl := setFoptslen queued.packet.header.header.fctrl
            (foptslen value.packet.header.header.fctrl)}}}}

/-- The loop of `push`: the first duplicate absorbs the item. -/
def merge (value : SemtechUDPPacketItem) (items : List SemtechUDPPacketItem) : List SemtechUDPPacketItem :=
  items.lookmap fun queued => if isDuplicate value queued then some (absorb value queued) else none

/-- `PacketQueue::push`. -/
def push (queue : Queue) (item : SemtechUDPPacketItem) : Queue :=
  let a := getAddr item
  match queue.packets[a]? with
  | some [] => {queue with packets := queue.packets.insert a [item]}
  | some items =>
    if items.any (isDuplicate item) then {queue with packets := queue.packets.insert a (merge item items)}
    else ⟨queue.packets.insert a (items++[item]),queue.addrs++[a]⟩
  | none => ⟨queue.packets.insert a [item],queue.addrs++[a]⟩

/-- `PacketQueue::diffMicroSeconds`. The seconds are narrowed to `int` before
they are compared, the result after it was computed. -/
def diffMicroSeconds (t1 t2 : Timeval) : ℤ :=
  let ds := (t2.tvSec-t1.tvSec).bmod (2^32)
  if 2147<ds then 2147483647
  else if ds< -2147 then 0
  else
    let r := 1000000*ds+(t2.tvUsec-t1.tvUsec)
    if r<0 then 0 else r.bmod (2^32)

/-- `TIME_LEAD_MICROSECONDS`. -/
def timeLeadMicroseconds : ℤ := 1000000

/-- The gateway of `getBestGatewayAddress` together with its ratio. -/
def bestGateway (packet : SemtechUDPPacket) : ℚ×UInt64 :=
  packet.metadata.foldl (fun (best : ℚ×UInt64) reception =>
    if best.1<reception.lsnr then (reception.lsnr,reception.gatewayId) else best) (lowestFloat,0)

/-- Ratio of the best gateway of an item. -/
def itemSnr (item : SemtechUDPPacketItem) : ℚ := (bestGateway item.packet).1

/-- The selection loop of `getFirstExpired` over the items behind the first
one: position in this list of the best item with the counter, for the vector
that begins with the first item. -/
def selectIndex (fcntFirst : UInt16) : List SemtechUDPPacketItem → ℕ → ℕ → ℚ → ℕ
  | [],_,idx,_ => idx
  | item::items,i,idx,lsnr =>
    if itemFcnt item≠fcntFirst then selectIndex fcntFirst items (i+1) idx lsnr
    else if (bestGateway item.packet).2≠0 ∧ lsnr<(bestGateway item.packet).1 then
      selectIndex fcntFirst items (i+1) i (bestGateway item.packet).1
    else selectIndex fcntFirst items (i+1) idx lsnr

/-- The item that `getFirstExpired` returns from the vector of an address. -/
def selectItem (first : SemtechUDPPacketItem) (others : List SemtechUDPPacketItem) : SemtechUDPPacketItem :=
  (first::others).getD (selectIndex (itemFcnt first) others 0 0 lowestFloat) first

/-- The vectors after `getFirstExpired` took the items with the counter of the
first one. -/
def removeFirst (packets : Std.TreeMap DEVADDR (List SemtechUDPPacketItem)) (a : DEVADDR)
    (first : SemtechUDPPacketItem) (others : List SemtechUDPPacketItem) :
    Std.TreeMap DEVADDR (List SemtechUDPPacketItem) :=
  if others.any fun item => itemFcnt item≠itemFcnt first then
    packets.insert a ((first::others).filter fun item => itemFcnt item≠itemFcnt first)
  else packets.erase a

/-- `PacketQueue::getFirstExpired`: the item, if one is returned, and the queue
afterwards. -/
def getFirstExpired (queue : Queue) (currentTime : Timeval) : Option SemtechUDPPacketItem×Queue :=
  match queue.addrs with
  | [] => (none,queue)
  | a::addrs =>
    match queue.packets[a]? with
    | some (first::others) =>
      if timeLeadMicroseconds<diffMicroSeconds currentTime first.time2send then (none,queue)
      else (some (selectItem first others),⟨removeFirst queue.packets a first others,addrs⟩)
    | _ => (none,queue)

/-- `PacketQueue::ack`: the datagram that is sent at once. -/
def ack (gwPrefix : SemtechPrefixGw) : Bytes :=
  2::(leBytes 2 gwPrefix.token.toNat++[if gwPrefix.tag=2 then 4 else gwPrefix.tag+1])

/-- A call to the queue. -/
inductive QueueEvent where
  /-- `push`. -/
  | push (item : SemtechUDPPacketItem)
  /-- `getFirstExpired`. -/
  | getFirstExpired (currentTime : Timeval)

/-- The queue after a call. -/
def queueStep (queue : Queue) : QueueEvent → Queue
  | .push item => push queue item
  | .getFirstExpired currentTime => (getFirstExpired queue currentTime).2

/-- Items queued for an address. -/
def itemsAt (queue : Queue) (a : DEVADDR) : List SemtechUDPPacketItem := queue.packets[a]?.getD []

/-- Items of an address after a push to that address. -/
def pushItems (items : List SemtechUDPPacketItem) (item : SemtechUDPPacketItem) :
    List SemtechUDPPacketItem :=
  if items.any (isDuplicate item) then merge item items else items++[item]

/-- No address has an empty vector. -/
def NoEmpty (queue : Queue) : Prop := ∀ a : DEVADDR,queue.packets[a]?≠some []

/-- The vector of an address after a write. -/
theorem packets_insert (packets : Std.TreeMap DEVADDR (List SemtechUDPPacketItem)) (written a : DEVADDR)
    (items : List SemtechUDPPacketItem) :
    (packets.insert written items)[a]?=if written=a then some items else packets[a]? := by
  rw [Std.TreeMap.getElem?_insert]
  simp only [Std.LawfulEqCmp.compare_eq_iff_eq]

/-- The vector of an address after an erasure. -/
theorem packets_erase (packets : Std.TreeMap DEVADDR (List SemtechUDPPacketItem)) (erased a : DEVADDR) :
    (packets.erase erased)[a]?=if erased=a then none else packets[a]? := by
  rw [Std.TreeMap.getElem?_erase]
  simp only [Std.LawfulEqCmp.compare_eq_iff_eq]

/-- Every outcome of `push`: an empty vector is filled without a new address, a
duplicate is merged, or the item and its address are appended. -/
theorem push_cases (queue : Queue) (item : SemtechUDPPacketItem) :
    (queue.packets[getAddr item]?=some [] ∧
        push queue item={queue with packets := queue.packets.insert (getAddr item) [item]}) ∨
      (∃ items,queue.packets[getAddr item]?=some items ∧ items.any (isDuplicate item)=true ∧
        push queue item={queue with packets := queue.packets.insert (getAddr item) (merge item items)}) ∨
      (queue.packets[getAddr item]?≠some [] ∧ (itemsAt queue (getAddr item)).any (isDuplicate item)=false ∧
        push queue item=⟨queue.packets.insert (getAddr item) (itemsAt queue (getAddr item)++[item]),
          queue.addrs++[getAddr item]⟩) := by
  cases hp : queue.packets[getAddr item]? with
  | none =>
    right
    right
    simp only [push,hp,itemsAt,Option.getD_none,List.nil_append,List.any_nil,ne_eq,reduceCtorEq,
      not_false_eq_true,and_self]
  | some items =>
    cases items with
    | nil =>
      left
      simp only [push,hp,and_self]
    | cons first others =>
      right
      by_cases hd : (first::others).any (isDuplicate item)=true
      · left
        refine ⟨first::others,rfl,hd,?_⟩
        simp only [push,hp,hd,if_true]
      · right
        refine ⟨by simp only [ne_eq,Option.some.injEq,reduceCtorEq,not_false_eq_true],?_,?_⟩
        · simpa only [itemsAt,hp,Option.getD_some,Bool.not_eq_true] using hd
        · simp only [push,hp,hd,itemsAt,Option.getD_some,Bool.false_eq_true,if_false]

/-- Items of an address after a push. -/
theorem itemsAt_push (queue : Queue) (item : SemtechUDPPacketItem) (a : DEVADDR) :
    itemsAt (push queue item) a=
      if getAddr item=a then pushItems (itemsAt queue a) item else itemsAt queue a := by
  rcases push_cases queue item with ⟨he,hq⟩ | ⟨items,hi,hd,hq⟩ | ⟨-,hd,hq⟩
  · rw [itemsAt,hq,packets_insert]
    split_ifs with ha
    · rw [←ha,pushItems,itemsAt,he]
      rfl
    · rfl
  · rw [itemsAt,hq,packets_insert]
    split_ifs with ha
    · rw [←ha,pushItems,itemsAt,hi]
      exact (if_pos hd).symm
    · rfl
  · rw [itemsAt,hq,packets_insert]
    split_ifs with ha
    · rw [←ha,pushItems,hd,if_neg Bool.false_ne_true,Option.getD_some]
    · rfl

/-- Addresses after a push, as long as no vector is empty. -/
theorem addrs_push {queue : Queue} (h : NoEmpty queue) (item : SemtechUDPPacketItem) :
    (push queue item).addrs=
      if (itemsAt queue (getAddr item)).any (isDuplicate item) then queue.addrs
      else queue.addrs++[getAddr item] := by
  rcases push_cases queue item with ⟨he,-⟩ | ⟨items,hi,hd,hq⟩ | ⟨-,hd,hq⟩
  · exact absurd he (h _)
  · rw [hq,itemsAt,hi,Option.getD_some,if_pos hd]
  · rw [hq,if_neg (by rw [hd]; exact Bool.false_ne_true)]

/-- Port and counter, by which `push` tells the items of one address apart. -/
def mergeKey (item : SemtechUDPPacketItem) : UInt8×UInt16 := (itemPort item,itemFcnt item)

/-- A push finds a duplicate exactly when its key is queued. -/
theorem any_isDuplicate_key (item : SemtechUDPPacketItem) (items : List SemtechUDPPacketItem) :
    items.any (isDuplicate item)=true ↔ mergeKey item∈items.map mergeKey := by
  rw [List.any_eq_true,List.mem_map]
  refine exists_congr fun queued => and_congr_right fun _ => ?_
  rw [isDuplicate,decide_eq_true_eq,mergeKey,mergeKey,Prod.mk.injEq]

/-- Merging keeps the number of items. -/
theorem merge_length (item : SemtechUDPPacketItem) (items : List SemtechUDPPacketItem) :
    (merge item items).length=items.length := List.length_lookmap _ _

/-- The first duplicate absorbs the item, all others stay. -/
theorem merge_split {value : SemtechUDPPacketItem} {items : List SemtechUDPPacketItem}
    (h : items.any (isDuplicate value)=true) :
    ∃ front queued back,items=front++queued::back ∧ isDuplicate value queued=true ∧
      merge value items=front++absorb value queued::back := by
  induction items with
  | nil => cases h
  | cons item items ih =>
    by_cases hd : isDuplicate value item=true
    · refine ⟨[],item,items,rfl,hd,?_⟩
      rw [merge,List.lookmap_cons_some _ _ (by rw [if_pos hd]),List.nil_append]
    · rw [List.any_cons,Bool.eq_false_of_not_eq_true hd,Bool.false_or] at h
      obtain ⟨front,queued,back,hi,hq,hm⟩ := ih h
      refine ⟨item::front,queued,back,by rw [hi,List.cons_append],hq,?_⟩
      rw [merge,List.lookmap_cons_none _ _ (by rw [if_neg hd]),←merge,hm,List.cons_append]

/-- Every outcome of `getFirstExpired`: nothing is returned and nothing
changes, or the vector of the address in front loses the items with the counter
of its first one. -/
theorem getFirstExpired_cases (queue : Queue) (t : Timeval) :
    getFirstExpired queue t=(none,queue) ∨
      ∃ a addrs first others,queue.addrs=a::addrs ∧ queue.packets[a]?=some (first::others) ∧
        diffMicroSeconds t first.time2send≤timeLeadMicroseconds ∧
        getFirstExpired queue t=
          (some (selectItem first others),⟨removeFirst queue.packets a first others,addrs⟩) := by
  cases ha : queue.addrs with
  | nil =>
    left
    simp only [getFirstExpired,ha]
  | cons a addrs =>
    cases hp : queue.packets[a]? with
    | none =>
      left
      simp only [getFirstExpired,ha,hp]
    | some items =>
      cases items with
      | nil =>
        left
        simp only [getFirstExpired,ha,hp]
      | cons first others =>
        by_cases ht : timeLeadMicroseconds<diffMicroSeconds t first.time2send
        · left
          simp only [getFirstExpired,ha,hp,ht,if_true]
        · right
          refine ⟨a,addrs,first,others,rfl,hp,Int.not_lt.mp ht,?_⟩
          simp only [getFirstExpired,ha,hp,ht,if_false]

/-- What a call does when the first item of the address in front is due. -/
theorem getFirstExpired_due {queue : Queue} {t : Timeval} {a : DEVADDR} {addrs : List DEVADDR}
    {first : SemtechUDPPacketItem} {others : List SemtechUDPPacketItem} (ha : queue.addrs=a::addrs)
    (hp : queue.packets[a]?=some (first::others))
    (hd : diffMicroSeconds t first.time2send≤timeLeadMicroseconds) :
    getFirstExpired queue t=
      (some (selectItem first others),⟨removeFirst queue.packets a first others,addrs⟩) := by
  simp only [getFirstExpired,ha,hp,Int.not_lt.mpr hd,if_false]

/-- Vectors after the removal. -/
theorem removeFirst_getD (packets : Std.TreeMap DEVADDR (List SemtechUDPPacketItem)) (a b : DEVADDR)
    (first : SemtechUDPPacketItem) (others : List SemtechUDPPacketItem) :
    (removeFirst packets a first others)[b]?.getD []=
      if a=b then (first::others).filter (fun item => itemFcnt item≠itemFcnt first)
      else packets[b]?.getD [] := by
  rw [removeFirst]
  split_ifs with ho hab hab
  · rw [packets_insert,if_pos hab,Option.getD_some]
  · rw [packets_insert,if_neg hab]
  · rw [packets_erase,if_pos hab,Option.getD_none,eq_comm,List.filter_eq_nil_iff]
    intro item hi
    rcases List.mem_cons.mp hi with rfl | hi
    · simp only [ne_eq,not_true_eq_false,decide_false,Bool.false_eq_true,not_false_eq_true]
    · exact fun hc => ho (List.any_eq_true.mpr ⟨item,hi,hc⟩)
  · rw [packets_erase,if_neg hab]

/-- The removal leaves no empty vector behind. -/
theorem removeFirst_noEmpty {queue : Queue} (h : NoEmpty queue) (a : DEVADDR) (first : SemtechUDPPacketItem)
    (others : List SemtechUDPPacketItem) (b : DEVADDR) :
    (removeFirst queue.packets a first others)[b]?≠some [] := by
  rw [removeFirst]
  split_ifs with ho
  · rw [packets_insert]
    split_ifs
    · intro hn
      obtain ⟨item,hi,hc⟩ := List.any_eq_true.mp ho
      have hm : item∈(first::others).filter (fun item => itemFcnt item≠itemFcnt first) :=
        List.mem_filter.mpr ⟨List.mem_cons_of_mem _ hi,hc⟩
      rw [Option.some.inj hn] at hm
      exact List.not_mem_nil hm
    · exact h b
  · rw [packets_erase]
    split_ifs
    · exact Option.some_ne_none _ |>.symm
    · exact h b

end LorawanServer.PacketQueue
