import LorawanServer.Records

/-!
# Frame counters of the devices

`JsonFileDeviceHistoryService` keeps one record for each network address. A
write through `operator[]` creates a zero record first, so the counters of an
address that was never written read as zero. Each operation takes the mutex
once and is one step.
-/

namespace LorawanServer.DeviceHistory

open Records

/-- `DEVICE_HISTORY_ITEM`. -/
structure DeviceHistoryItem where
  /-- Last session time. -/
  t : ℤ
  /-- Last frame count sent by the device. -/
  fcntup : UInt32
  /-- Last frame count sent by the network server. -/
  fcntdown : UInt32
  deriving DecidableEq,Repr

/-- The record that `operator[]` creates. -/
def DeviceHistoryItem.zero : DeviceHistoryItem := ⟨0,0,0⟩

/-- The storage of `JsonFileDeviceHistoryService`. -/
abbrev Storage := Std.TreeMap DEVADDR DeviceHistoryItem

/-- `JsonFileDeviceHistoryService::get`. -/
def get (storage : Storage) (devaddr : DEVADDR) : Except ErrorCode DeviceHistoryItem :=
  match storage[devaddr]? with
  | some item => .ok item
  | none => .error ⟨ERR_CODE_DEVICE_ADDRESS_NOTFOUND,by decide⟩

/-- Value of `storage[devaddr]` on the right of an assignment. -/
def slot (storage : Storage) (devaddr : DEVADDR) : DeviceHistoryItem :=
  storage[devaddr]?.getD DeviceHistoryItem.zero

/-- `JsonFileDeviceHistoryService::putUp`. -/
def putUp (storage : Storage) (devaddr : DEVADDR) (tm : ℤ) (value : UInt32) : Storage :=
  storage.insert devaddr {slot storage devaddr with fcntup := value,t := tm}

/-- `JsonFileDeviceHistoryService::putDown`. -/
def putDown (storage : Storage) (devaddr : DEVADDR) (tm : ℤ) (value : UInt32) : Storage :=
  storage.insert devaddr {slot storage devaddr with fcntdown := value,t := tm}

/-- `JsonFileDeviceHistoryService::incrementDown`, with the returned counter. -/
def incrementDown (storage : Storage) (devaddr : DEVADDR) (time : ℤ) : Storage×UInt32 :=
  let v := {slot storage devaddr with fcntdown := (slot storage devaddr).fcntdown+1,t := time}
  (storage.insert devaddr v,v.fcntdown)

/-- Downlink counter of an address, zero when it was never written. -/
def fcntdown (storage : Storage) (devaddr : DEVADDR) : UInt32 := (slot storage devaddr).fcntdown

/-- The slot of an address after a write. -/
theorem slot_insert (storage : Storage) (written devaddr : DEVADDR) (item : DeviceHistoryItem) :
    slot (storage.insert written item) devaddr=if written=devaddr then item else slot storage devaddr := by
  rw [slot,Std.TreeMap.getElem?_insert]
  simp only [Std.LawfulEqCmp.compare_eq_iff_eq]
  split
  · rfl
  · rfl

/-- `putDown` changes one downlink counter. -/
theorem fcntdown_putDown (storage : Storage) (written devaddr : DEVADDR) (tm : ℤ) (value : UInt32) :
    fcntdown (putDown storage written tm value) devaddr=
      if written=devaddr then value else fcntdown storage devaddr := by
  rw [fcntdown,putDown,slot_insert]
  split
  · rfl
  · rfl

/-- `incrementDown` adds one to one downlink counter. -/
theorem fcntdown_incrementDown (storage : Storage) (written devaddr : DEVADDR) (time : ℤ) :
    fcntdown (incrementDown storage written time).1 devaddr=
      if written=devaddr then fcntdown storage devaddr+1 else fcntdown storage devaddr := by
  rw [fcntdown,incrementDown,slot_insert]
  split
  · next h => rw [h]; rfl
  · rfl

/-- The counter that `incrementDown` returns. -/
theorem incrementDown_counter (storage : Storage) (devaddr : DEVADDR) (time : ℤ) :
    (incrementDown storage devaddr time).2=fcntdown storage devaddr+1 := rfl

/-- The counter that a reader takes from `get`, zero when there is none. -/
theorem get_fcntdown (storage : Storage) (devaddr : DEVADDR) :
    (match get storage devaddr with
      | .ok item => item.fcntdown
      | .error _ => 0)=fcntdown storage devaddr := by
  rw [get,fcntdown,slot]
  cases storage[devaddr]? with
  | none => rfl
  | some item => rfl

end LorawanServer.DeviceHistory
