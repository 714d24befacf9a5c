import LorawanServer.JoinReplies

/-!
# Session key derivation

The seven key derivations of `utillora.cpp` lay out a block of sixteen bytes
and pass its address down to `deriveKeyBlock`, which hashes the bytes at the
address of its own pointer parameter. A derived key is therefore a function of
what the call finds on its stack. The documented block is kept beside the code,
and the two are compared over every block function and every run.
-/

namespace LorawanServer.KeyDerivation

open CppRuntime Records FrameCrypto

/-- What one call of `deriveKeyBlock` finds on its stack. -/
structure CallStack where
  /-- The pointer parameter `value`, with the address of the block. -/
  value : Vector UInt8 8
  /-- The eight bytes behind the parameter. -/
  behind : Vector UInt8 8
  deriving DecidableEq

/-- Memory from the address of the pointer parameter on. -/
def CallStack.bytes (stack : CallStack) : Bytes := stack.value.toList++stack.behind.toList

/-- `deriveKeyBlock`. It hashes `size` bytes at the address of `value`, not at
the address in it, so the block is never read. -/
def deriveKeyBlock (crypto : Crypto) (stack : CallStack) (nwkKey : KEY128) (_block : Bytes) (size : ℕ) :
    KEY128 := crypto.cmac nwkKey (stack.bytes.take size)

/-- The block of `deriveKey`: tag, value and seven zeros. -/
def keyBlock (tag : UInt8) (value : Bytes) : Bytes := tag::value++List.replicate 7 0

/-- The block of `deriveDevSessionKey`. -/
def devSessionBlock (tag : UInt8) (devEUI : DEVEUI) (joinNonce : JOINNONCE) (devNonce : UInt16) : Bytes :=
  tag::joinNonce.toList++leBytes 8 devEUI.toNat++leBytes 2 devNonce.toNat++List.replicate 2 0

/-- The block of `deriveNetSessionKey`. -/
def netSessionBlock (tag : UInt8) (netId : Vector UInt8 3) (joinNonce : JOINNONCE) (devNonce : UInt16) : Bytes :=
  tag::joinNonce.toList++netId.toList++leBytes 2 devNonce.toNat++List.replicate 7 0

section

variable (crypto : Crypto) (stack : CallStack)

/-- `deriveKey`. -/
def deriveKey (tag : UInt8) (nwkKey : KEY128) (value : Bytes) : KEY128 :=
  deriveKeyBlock crypto stack nwkKey (keyBlock tag value) 16

/-- `deriveJSIntKey`. -/
def deriveJSIntKey (nwkKey : KEY128) (devEUI : DEVEUI) : KEY128 :=
  deriveKey crypto stack 6 nwkKey (leBytes 8 devEUI.toNat)

/-- `deriveJSEncKey`. -/
def deriveJSEncKey (nwkKey : KEY128) (devEUI : DEVEUI) : KEY128 :=
  deriveKey crypto stack 5 nwkKey (leBytes 8 devEUI.toNat)

/-- `deriveDevSessionKey`. -/
def deriveDevSessionKey (tag : UInt8) (key : KEY128) (devEUI : DEVEUI) (joinNonce : JOINNONCE)
    (devNonce : UInt16) : KEY128 :=
  deriveKeyBlock crypto stack key (devSessionBlock tag devEUI joinNonce devNonce) 16

/-- `deriveNetSessionKey`. -/
def deriveNetSessionKey (tag : UInt8) (key : KEY128) (netId : Vector UInt8 3) (joinNonce : JOINNONCE)
    (devNonce : UInt16) : KEY128 :=
  deriveKeyBlock crypto stack key (netSessionBlock tag netId joinNonce devNonce) 16

/-- `deriveOptNegFNwkSIntKey`. -/
def deriveOptNegFNwkSIntKey (key : KEY128) (joinEUI : DEVEUI) (joinNonce : JOINNONCE) (devNonce : UInt16) :
    KEY128 := deriveDevSessionKey crypto stack 1 key joinEUI joinNonce devNonce

/-- `deriveOptNegSNwkSIntKey`. -/
def deriveOptNegSNwkSIntKey (key : KEY128) (joinEUI : DEVEUI) (joinNonce : JOINNONCE) (devNonce : UInt16) :
    KEY128 := deriveDevSessionKey crypto stack 3 key joinEUI joinNonce devNonce

/-- `deriveOptNegNwkSEncKey`. -/
def deriveOptNegNwkSEncKey (key : KEY128) (joinEUI : DEVEUI) (joinNonce : JOINNONCE) (devNonce : UInt16) :
    KEY128 := deriveDevSessionKey crypto stack 4 key joinEUI joinNonce devNonce

/-- `deriveAppSKey`. -/
def deriveAppSKey (key : KEY128) (netId : Vector UInt8 3) (joinNonce : JOINNONCE) (devNonce : UInt16) :
    KEY128 := deriveNetSessionKey crypto stack 2 key netId joinNonce devNonce

/-- `deriveFNwkSIntKey`. -/
def deriveFNwkSIntKey (key : KEY128) (netId : Vector UInt8 3) (joinNonce : JOINNONCE) (devNonce : UInt16) :
    KEY128 := deriveNetSessionKey crypto stack 1 key netId joinNonce devNonce

end

/-- The inputs of a join that the derivations draw on. -/
structure JoinInputs where
  /-- Network identifier. -/
  netId : Vector UInt8 3
  /-- Nonce of the network. -/
  joinNonce : JOINNONCE
  /-- Identifier of the join server, or of the device. -/
  eui : DEVEUI
  /-- Nonce of the device. -/
  devNonce : UInt16

/-- The seven derived keys. -/
inductive DerivedKey where
  | appSKey
  | fNwkSIntKey
  | optNegFNwkSIntKey
  | optNegSNwkSIntKey
  | optNegNwkSEncKey
  | jsIntKey
  | jsEncKey
  deriving DecidableEq,Repr

/-- The function that derives each key. -/
def DerivedKey.derive (crypto : Crypto) (stack : CallStack) (key : KEY128) (inputs : JoinInputs) :
    DerivedKey → KEY128
  | .appSKey => deriveAppSKey crypto stack key inputs.netId inputs.joinNonce inputs.devNonce
  | .fNwkSIntKey => deriveFNwkSIntKey crypto stack key inputs.netId inputs.joinNonce inputs.devNonce
  | .optNegFNwkSIntKey => deriveOptNegFNwkSIntKey crypto stack key inputs.eui inputs.joinNonce inputs.devNonce
  | .optNegSNwkSIntKey => deriveOptNegSNwkSIntKey crypto stack key inputs.eui inputs.joinNonce inputs.devNonce
  | .optNegNwkSEncKey => deriveOptNegNwkSEncKey crypto stack key inputs.eui inputs.joinNonce inputs.devNonce
  | .jsIntKey => deriveJSIntKey crypto stack key inputs.eui
  | .jsEncKey => deriveJSEncKey crypto stack key inputs.eui

/-- Documented tag of each key. -/
def DerivedKey.tag : DerivedKey → UInt8
  | .appSKey => 2
  | .fNwkSIntKey => 1
  | .optNegFNwkSIntKey => 1
  | .optNegSNwkSIntKey => 3
  | .optNegNwkSEncKey => 4
  | .jsIntKey => 6
  | .jsEncKey => 5

/-- Documented block of each key. -/
def DerivedKey.block (inputs : JoinInputs) (derived : DerivedKey) : Bytes :=
  match derived with
  | .appSKey => netSessionBlock derived.tag inputs.netId inputs.joinNonce inputs.devNonce
  | .fNwkSIntKey => netSessionBlock derived.tag inputs.netId inputs.joinNonce inputs.devNonce
  | .optNegFNwkSIntKey => devSessionBlock derived.tag inputs.eui inputs.joinNonce inputs.devNonce
  | .optNegSNwkSIntKey => devSessionBlock derived.tag inputs.eui inputs.joinNonce inputs.devNonce
  | .optNegNwkSEncKey => devSessionBlock derived.tag inputs.eui inputs.joinNonce inputs.devNonce
  | .jsIntKey => keyBlock derived.tag (leBytes 8 inputs.eui.toNat)
  | .jsEncKey => keyBlock derived.tag (leBytes 8 inputs.eui.toNat)

/-- Every documented block has sixteen bytes. -/
theorem DerivedKey.block_length (inputs : JoinInputs) (derived : DerivedKey) :
    (derived.block inputs).length=16 := by
  cases derived <;> simp only [DerivedKey.block,netSessionBlock,devSessionBlock,keyBlock,List.cons_append,
    List.length_cons,List.length_append,Vector.length_toList,leBytes_length,List.length_replicate]

/-- It begins with the tag, so blocks of different tags differ. -/
theorem DerivedKey.head?_block (inputs : JoinInputs) (derived : DerivedKey) :
    (derived.block inputs).head?=some derived.tag := by
  cases derived <;> rfl

/-- Whatever the key, the derivation hashes the sixteen bytes that the call
finds from the address of its parameter on. -/
theorem DerivedKey.derive_eq (crypto : Crypto) (stack : CallStack) (key : KEY128) (inputs : JoinInputs)
    (derived : DerivedKey) : derived.derive crypto stack key inputs=crypto.cmac key stack.bytes := by
  have htake : stack.bytes.take 16=stack.bytes := List.take_of_length_le (by
    rw [CallStack.bytes,List.length_append,Vector.length_toList,Vector.length_toList])
  -- the seven functions differ in the block, which none of them reads
  cases derived <;> exact congrArg (crypto.cmac key) htake

/-- In one run a key is the hash of its block, whatever the hash, exactly when
the stack happens to hold that block. -/
theorem DerivedKey.derive_eq_cmac_iff (stack : CallStack) (key : KEY128) (inputs : JoinInputs)
    (derived : DerivedKey) :
    (∀ crypto : Crypto,derived.derive crypto stack key inputs=crypto.cmac key (derived.block inputs)) ↔
      stack.bytes=derived.block inputs := by
  simp only [DerivedKey.derive_eq]
  exact @cmac_forall_iff _ id (by decide) key stack.bytes (derived.block inputs)

/-- In two runs the same inputs give the same key, whatever the hash, exactly
when both stacks agree. -/
theorem DerivedKey.derive_agree_iff (left right : CallStack) (key : KEY128) (inputs : JoinInputs)
    (derived : DerivedKey) :
    (∀ crypto : Crypto,derived.derive crypto left key inputs=derived.derive crypto right key inputs) ↔
      left.bytes=right.bytes := by
  simp only [DerivedKey.derive_eq]
  exact @cmac_forall_iff _ id (by decide) key left.bytes right.bytes

/-- A call whose block stands at an address of the user half of the address
space, with zeros behind the parameter. -/
def stackAt (page : UInt8) : CallStack := ⟨#v[0x10,page,0,0,0xfd,0x7f,0,0],Vector.replicate 8 0⟩

/-- For no key and no inputs is a derivation a function of its inputs: neither
is it the hash of the block in every run, nor do any two runs agree. -/
theorem DerivedKey.not_inputsOnly (derived : DerivedKey) (key : KEY128) (inputs : JoinInputs) :
    (¬∀ (crypto : Crypto) (stack : CallStack),
      derived.derive crypto stack key inputs=crypto.cmac key (derived.block inputs)) ∧
    ¬∀ (crypto : Crypto) (left right : CallStack),
      derived.derive crypto left key inputs=derived.derive crypto right key inputs := by
  have hmoved : (stackAt 0).bytes≠(stackAt 1).bytes := by decide
  constructor
  · intro h
    have hleft := (derived.derive_eq_cmac_iff (stackAt 0) key inputs).mp fun crypto => h crypto _
    have hright := (derived.derive_eq_cmac_iff (stackAt 1) key inputs).mp fun crypto => h crypto _
    exact hmoved (hleft.trans hright.symm)
  · intro h
    exact hmoved ((derived.derive_agree_iff _ _ key inputs).mp fun crypto => h crypto _ _)

/-- `AppSKey` of zero inputs under the zero key, with the block at two
addresses. -/
theorem not_derive_appSKey :
    ¬∀ (crypto : Crypto) (stack : CallStack) (key : KEY128) (inputs : JoinInputs) (derived : DerivedKey),
      derived.derive crypto stack key inputs=crypto.cmac key (derived.block inputs) := by
  intro h
  have hbytes := (DerivedKey.appSKey.derive_eq_cmac_iff (stackAt 0) (constBlock 0)
    ⟨Vector.replicate 3 0,Vector.replicate 3 0,0,0⟩).mp fun crypto => h crypto _ _ _ _
  exact absurd hbytes (by decide)

end LorawanServer.KeyDerivation
