import LorawanServer.XorLinear

/-!
# The block cipher

`aes.c` with a precomputed key schedule and with tables. A round substitutes,
moves and mixes the bytes of a block with one table lookup each; decryption
undoes the rounds in the reverse order. The tables are formed from their data by
the multiplications of the source.
-/

namespace LorawanServer.Aes

open XorLinear

/-- A block of `N_BLOCK` bytes. -/
abbrev Block := Vector UInt8 16

/-- `WPOLY`. -/
def wpoly : ℕ := 0x011b

/-- `f1`. -/
def f1 (x : ℕ) : ℕ := x

/-- `f2`: twice a byte in the field. -/
def f2 (x : ℕ) : ℕ := (x <<< 1) ^^^ (((x >>> 7) &&& 1)*wpoly)

/-- `f4`. -/
def f4 (x : ℕ) : ℕ := (x <<< 2) ^^^ (((x >>> 6) &&& 1)*wpoly) ^^^ (((x >>> 6) &&& 2)*wpoly)

/-- `f8`. -/
def f8 (x : ℕ) : ℕ :=
  (x <<< 3) ^^^ (((x >>> 5) &&& 1)*wpoly) ^^^ (((x >>> 5) &&& 2)*wpoly) ^^^ (((x >>> 5) &&& 4)*wpoly)

/-- `f3`. -/
def f3 (x : ℕ) : ℕ := f2 x ^^^ x

/-- `f9`. -/
def f9 (x : ℕ) : ℕ := f8 x ^^^ x

/-- `fb`. -/
def fb (x : ℕ) : ℕ := f8 x ^^^ f2 x ^^^ x

/-- `fd`. -/
def fd (x : ℕ) : ℕ := f8 x ^^^ f4 x ^^^ x

/-- `fe`. -/
def fe (x : ℕ) : ℕ := f8 x ^^^ f4 x ^^^ f2 x

/-- `sb_data`. -/
def sbData : List ℕ :=
  [0x63,0x7c,0x77,0x7b,0xf2,0x6b,0x6f,0xc5,0x30,0x01,0x67,0x2b,0xfe,0xd7,0xab,0x76,
  0xca,0x82,0xc9,0x7d,0xfa,0x59,0x47,0xf0,0xad,0xd4,0xa2,0xaf,0x9c,0xa4,0x72,0xc0,
  0xb7,0xfd,0x93,0x26,0x36,0x3f,0xf7,0xcc,0x34,0xa5,0xe5,0xf1,0x71,0xd8,0x31,0x15,
  0x04,0xc7,0x23,0xc3,0x18,0x96,0x05,0x9a,0x07,0x12,0x80,0xe2,0xeb,0x27,0xb2,0x75,
  0x09,0x83,0x2c,0x1a,0x1b,0x6e,0x5a,0xa0,0x52,0x3b,0xd6,0xb3,0x29,0xe3,0x2f,0x84,
  0x53,0xd1,0x00,0xed,0x20,0xfc,0xb1,0x5b,0x6a,0xcb,0xbe,0x39,0x4a,0x4c,0x58,0xcf,
  0xd0,0xef,0xaa,0xfb,0x43,0x4d,0x33,0x85,0x45,0xf9,0x02,0x7f,0x50,0x3c,0x9f,0xa8,
  0x51,0xa3,0x40,0x8f,0x92,0x9d,0x38,0xf5,0xbc,0xb6,0xda,0x21,0x10,0xff,0xf3,0xd2,
  0xcd,0x0c,0x13,0xec,0x5f,0x97,0x44,0x17,0xc4,0xa7,0x7e,0x3d,0x64,0x5d,0x19,0x73,
  0x60,0x81,0x4f,0xdc,0x22,0x2a,0x90,0x88,0x46,0xee,0xb8,0x14,0xde,0x5e,0x0b,0xdb,
  0xe0,0x32,0x3a,0x0a,0x49,0x06,0x24,0x5c,0xc2,0xd3,0xac,0x62,0x91,0x95,0xe4,0x79,
  0xe7,0xc8,0x37,0x6d,0x8d,0xd5,0x4e,0xa9,0x6c,0x56,0xf4,0xea,0x65,0x7a,0xae,0x08,
  0xba,0x78,0x25,0x2e,0x1c,0xa6,0xb4,0xc6,0xe8,0xdd,0x74,0x1f,0x4b,0xbd,0x8b,0x8a,
  0x70,0x3e,0xb5,0x66,0x48,0x03,0xf6,0x0e,0x61,0x35,0x57,0xb9,0x86,0xc1,0x1d,0x9e,
  0xe1,0xf8,0x98,0x11,0x69,0xd9,0x8e,0x94,0x9b,0x1e,0x87,0xe9,0xce,0x55,0x28,0xdf,
  0x8c,0xa1,0x89,0x0d,0xbf,0xe6,0x42,0x68,0x41,0x99,0x2d,0x0f,0xb0,0x54,0xbb,0x16]

/-- `isb_data`. -/
def isbData : List ℕ :=
  [0x52,0x09,0x6a,0xd5,0x30,0x36,0xa5,0x38,0xbf,0x40,0xa3,0x9e,0x81,0xf3,0xd7,0xfb,
  0x7c,0xe3,0x39,0x82,0x9b,0x2f,0xff,0x87,0x34,0x8e,0x43,0x44,0xc4,0xde,0xe9,0xcb,
  0x54,0x7b,0x94,0x32,0xa6,0xc2,0x23,0x3d,0xee,0x4c,0x95,0x0b,0x42,0xfa,0xc3,0x4e,
  0x08,0x2e,0xa1,0x66,0x28,0xd9,0x24,0xb2,0x76,0x5b,0xa2,0x49,0x6d,0x8b,0xd1,0x25,
  0x72,0xf8,0xf6,0x64,0x86,0x68,0x98,0x16,0xd4,0xa4,0x5c,0xcc,0x5d,0x65,0xb6,0x92,
  0x6c,0x70,0x48,0x50,0xfd,0xed,0xb9,0xda,0x5e,0x15,0x46,0x57,0xa7,0x8d,0x9d,0x84,
  0x90,0xd8,0xab,0x00,0x8c,0xbc,0xd3,0x0a,0xf7,0xe4,0x58,0x05,0xb8,0xb3,0x45,0x06,
  0xd0,0x2c,0x1e,0x8f,0xca,0x3f,0x0f,0x02,0xc1,0xaf,0xbd,0x03,0x01,0x13,0x8a,0x6b,
  0x3a,0x91,0x11,0x41,0x4f,0x67,0xdc,0xea,0x97,0xf2,0xcf,0xce,0xf0,0xb4,0xe6,0x73,
  0x96,0xac,0x74,0x22,0xe7,0xad,0x35,0x85,0xe2,0xf9,0x37,0xe8,0x1c,0x75,0xdf,0x6e,
  0x47,0xf1,0x1a,0x71,0x1d,0x29,0xc5,0x89,0x6f,0xb7,0x62,0x0e,0xaa,0x18,0xbe,0x1b,
  0xfc,0x56,0x3e,0x4b,0xc6,0xd2,0x79,0x20,0x9a,0xdb,0xc0,0xfe,0x78,0xcd,0x5a,0xf4,
  0x1f,0xdd,0xa8,0x33,0x88,0x07,0xc7,0x31,0xb1,0x12,0x10,0x59,0x27,0x80,0xec,0x5f,
  0x60,0x51,0x7f,0xa9,0x19,0xb5,0x4a,0x0d,0x2d,0xe5,0x7a,0x9f,0x93,0xc9,0x9c,0xef,
  0xa0,0xe0,0x3b,0x4d,0xae,0x2a,0xf5,0xb0,0xc8,0xeb,0xbb,0x3c,0x83,0x53,0x99,0x61,
  0x17,0x2b,0x04,0x7e,0xba,0x77,0xd6,0x26,0xe1,0x69,0x14,0x63,0x55,0x21,0x0c,0x7d]

/-- `mm_data`: every byte at its own place. -/
def mmData : List ℕ := List.range 256

/-- A table of bytes that a macro forms from its data. -/
def table (data : List ℕ) (w : ℕ → ℕ) : List UInt8 := data.map fun x => UInt8.ofNat (w x)

/-- Lookup of a byte in a table. -/
def lookup (entries : List UInt8) (x : UInt8) : UInt8 := entries.getD x.toNat 0

/-- `s_box`. -/
def sBox : UInt8 → UInt8 := lookup (table sbData f1)

/-- `is_box`. -/
def isBox : UInt8 → UInt8 := lookup (table isbData f1)

/-- `gfm2_sb`. -/
def gfm2Sb : UInt8 → UInt8 := lookup (table sbData f2)

/-- `gfm3_sb`. -/
def gfm3Sb : UInt8 → UInt8 := lookup (table sbData f3)

/-- `gfm_9`. -/
def gfm9 : UInt8 → UInt8 := lookup (table mmData f9)

/-- `gfm_b`. -/
def gfmB : UInt8 → UInt8 := lookup (table mmData fb)

/-- `gfm_d`. -/
def gfmD : UInt8 → UInt8 := lookup (table mmData fd)

/-- `gfm_e`. -/
def gfmE : UInt8 → UInt8 := lookup (table mmData fe)

/-- `xor_block`, and with it `add_round_key` and `copy_and_key`. -/
def xorBlock (d s : Block) : Block := Vector.zipWith (· ^^^ ·) d s

/-- `shift_sub_rows`; the source moves the bytes in place. -/
def shiftSubRows (st : Block) : Block :=
  #v[sBox (st.get 0),sBox (st.get 5),sBox (st.get 10),sBox (st.get 15),
    sBox (st.get 4),sBox (st.get 9),sBox (st.get 14),sBox (st.get 3),
    sBox (st.get 8),sBox (st.get 13),sBox (st.get 2),sBox (st.get 7),
    sBox (st.get 12),sBox (st.get 1),sBox (st.get 6),sBox (st.get 11)]

/-- `inv_shift_sub_rows`; the source moves the bytes in place. -/
def invShiftSubRows (st : Block) : Block :=
  #v[isBox (st.get 0),isBox (st.get 13),isBox (st.get 10),isBox (st.get 7),
    isBox (st.get 4),isBox (st.get 1),isBox (st.get 14),isBox (st.get 11),
    isBox (st.get 8),isBox (st.get 5),isBox (st.get 2),isBox (st.get 15),
    isBox (st.get 12),isBox (st.get 9),isBox (st.get 6),isBox (st.get 3)]

/-- `mix_sub_columns`. -/
def mixSubColumns (st : Block) : Block :=
  #v[gfm2Sb (st.get 0) ^^^ gfm3Sb (st.get 5) ^^^ sBox (st.get 10) ^^^ sBox (st.get 15),
    sBox (st.get 0) ^^^ gfm2Sb (st.get 5) ^^^ gfm3Sb (st.get 10) ^^^ sBox (st.get 15),
    sBox (st.get 0) ^^^ sBox (st.get 5) ^^^ gfm2Sb (st.get 10) ^^^ gfm3Sb (st.get 15),
    gfm3Sb (st.get 0) ^^^ sBox (st.get 5) ^^^ sBox (st.get 10) ^^^ gfm2Sb (st.get 15),
    gfm2Sb (st.get 4) ^^^ gfm3Sb (st.get 9) ^^^ sBox (st.get 14) ^^^ sBox (st.get 3),
    sBox (st.get 4) ^^^ gfm2Sb (st.get 9) ^^^ gfm3Sb (st.get 14) ^^^ sBox (st.get 3),
    sBox (st.get 4) ^^^ sBox (st.get 9) ^^^ gfm2Sb (st.get 14) ^^^ gfm3Sb (st.get 3),
    gfm3Sb (st.get 4) ^^^ sBox (st.get 9) ^^^ sBox (st.get 14) ^^^ gfm2Sb (st.get 3),
    gfm2Sb (st.get 8) ^^^ gfm3Sb (st.get 13) ^^^ sBox (st.get 2) ^^^ sBox (st.get 7),
    sBox (st.get 8) ^^^ gfm2Sb (st.get 13) ^^^ gfm3Sb (st.get 2) ^^^ sBox (st.get 7),
    sBox (st.get 8) ^^^ sBox (st.get 13) ^^^ gfm2Sb (st.get 2) ^^^ gfm3Sb (st.get 7),
    gfm3Sb (st.get 8) ^^^ sBox (st.get 13) ^^^ sBox (st.get 2) ^^^ gfm2Sb (st.get 7),
    gfm2Sb (st.get 12) ^^^ gfm3Sb (st.get 1) ^^^ sBox (st.get 6) ^^^ sBox (st.get 11),
    sBox (st.get 12) ^^^ gfm2Sb (st.get 1) ^^^ gfm3Sb (st.get 6) ^^^ sBox (st.get 11),
    sBox (st.get 12) ^^^ sBox (st.get 1) ^^^ gfm2Sb (st.get 6) ^^^ gfm3Sb (st.get 11),
    gfm3Sb (st.get 12) ^^^ sBox (st.get 1) ^^^ sBox (st.get 6) ^^^ gfm2Sb (st.get 11)]

/-- `inv_mix_sub_columns`. -/
def invMixSubColumns (st : Block) : Block :=
  #v[isBox (gfmE (st.get 0) ^^^ gfmB (st.get 1) ^^^ gfmD (st.get 2) ^^^ gfm9 (st.get 3)),
    isBox (gfm9 (st.get 12) ^^^ gfmE (st.get 13) ^^^ gfmB (st.get 14) ^^^ gfmD (st.get 15)),
    isBox (gfmD (st.get 8) ^^^ gfm9 (st.get 9) ^^^ gfmE (st.get 10) ^^^ gfmB (st.get 11)),
    isBox (gfmB (st.get 4) ^^^ gfmD (st.get 5) ^^^ gfm9 (st.get 6) ^^^ gfmE (st.get 7)),
    isBox (gfmE (st.get 4) ^^^ gfmB (st.get 5) ^^^ gfmD (st.get 6) ^^^ gfm9 (st.get 7)),
    isBox (gfm9 (st.get 0) ^^^ gfmE (st.get 1) ^^^ gfmB (st.get 2) ^^^ gfmD (st.get 3)),
    isBox (gfmD (st.get 12) ^^^ gfm9 (st.get 13) ^^^ gfmE (st.get 14) ^^^ gfmB (st.get 15)),
    isBox (gfmB (st.get 8) ^^^ gfmD (st.get 9) ^^^ gfm9 (st.get 10) ^^^ gfmE (st.get 11)),
    isBox (gfmE (st.get 8) ^^^ gfmB (st.get 9) ^^^ gfmD (st.get 10) ^^^ gfm9 (st.get 11)),
    isBox (gfm9 (st.get 4) ^^^ gfmE (st.get 5) ^^^ gfmB (st.get 6) ^^^ gfmD (st.get 7)),
    isBox (gfmD (st.get 0) ^^^ gfm9 (st.get 1) ^^^ gfmE (st.get 2) ^^^ gfmB (st.get 3)),
    isBox (gfmB (st.get 12) ^^^ gfmD (st.get 13) ^^^ gfm9 (st.get 14) ^^^ gfmE (st.get 15)),
    isBox (gfmE (st.get 12) ^^^ gfmB (st.get 13) ^^^ gfmD (st.get 14) ^^^ gfm9 (st.get 15)),
    isBox (gfm9 (st.get 8) ^^^ gfmE (st.get 9) ^^^ gfmB (st.get 10) ^^^ gfmD (st.get 11)),
    isBox (gfmD (st.get 4) ^^^ gfm9 (st.get 5) ^^^ gfmE (st.get 6) ^^^ gfmB (st.get 7)),
    isBox (gfmB (st.get 0) ^^^ gfmD (st.get 1) ^^^ gfm9 (st.get 2) ^^^ gfmE (st.get 3))]

/-- `aes_context`: the key schedule as far as `aes_set_key` fills it. -/
structure AesContext where
  ksch : List UInt8
  rnd : UInt8

/-- The round key at a multiple of the block length. -/
def roundKey (ctx : AesContext) (r : ℕ) : Block := Vector.ofFn fun i => ctx.ksch.getD (16*r+i) 0

/-- The four bytes that end the schedule so far. -/
def lastWord (ksch : List UInt8) : UInt8×UInt8×UInt8×UInt8 :=
  (ksch.getD (ksch.length-4) 0,ksch.getD (ksch.length-3) 0,ksch.getD (ksch.length-2) 0,
    ksch.getD (ksch.length-1) 0)

/-- One round of the loop of `aes_set_key`: the schedule with four more bytes,
and the round constant. -/
def expandWord (keylen : ℕ) (ksch : List UInt8) (rc : UInt8) : List UInt8×UInt8 :=
  let cc := ksch.length
  let (t0,t1,t2,t3) := lastWord ksch
  let (t,rc) :=
    if cc%keylen=0 then ((sBox t1 ^^^ rc,sBox t2,sBox t3,sBox t0),UInt8.ofNat (f2 rc.toNat))
    else if 24<keylen ∧ cc%keylen=16 then ((sBox t0,sBox t1,sBox t2,sBox t3),rc)
    else ((t0,t1,t2,t3),rc)
  let tt := cc-keylen
  (ksch++[ksch.getD tt 0 ^^^ t.1,ksch.getD (tt+1) 0 ^^^ t.2.1,ksch.getD (tt+2) 0 ^^^ t.2.2.1,
    ksch.getD (tt+3) 0 ^^^ t.2.2.2],rc)

/-- The loop of `aes_set_key` for a number of words. -/
def expandWords (keylen : ℕ) : ℕ → List UInt8 → UInt8 → List UInt8
  | 0,ksch,_ => ksch
  | n+1,ksch,rc => expandWords keylen n (expandWord keylen ksch rc).1 (expandWord keylen ksch rc).2

/-- `aes_set_key`; another length leaves no rounds. -/
def aesSetKey (key : List UInt8) (keylen : ℕ) : AesContext :=
  if keylen=16 ∨ keylen=24 ∨ keylen=32 then
    let hi := (keylen+28)*4
    ⟨expandWords keylen ((hi-keylen)/4) (key.take keylen) 1,UInt8.ofNat (hi/16-1)⟩
  else ⟨[],0⟩

/-- `aes_encrypt`; nothing is written without rounds. -/
def aesEncrypt (ctx : AesContext) (input : Block) : Option Block :=
  if ctx.rnd=0 then none
  else
    let s1 := (List.range' 1 (ctx.rnd.toNat-1)).foldl
      (fun s r => xorBlock (mixSubColumns s) (roundKey ctx r)) (xorBlock input (roundKey ctx 0))
    some (xorBlock (shiftSubRows s1) (roundKey ctx ctx.rnd.toNat))

/-- `aes_decrypt`; its loop counts the rounds down. -/
def aesDecrypt (ctx : AesContext) (input : Block) : Option Block :=
  if ctx.rnd=0 then none
  else
    let s1 := (List.range' 1 (ctx.rnd.toNat-1)).reverse.foldl
      (fun s r => invMixSubColumns (xorBlock s (roundKey ctx r)))
      (invShiftSubRows (xorBlock input (roundKey ctx ctx.rnd.toNat)))
    some (xorBlock s1 (roundKey ctx 0))

/-- `aes_cbc_encrypt`: the enciphered blocks; each one is added to the next. -/
def aesCbcEncrypt (ctx : AesContext) : Block → List Block → Option (List Block)
  | _,[] => some []
  | iv,block::blocks =>
    match aesEncrypt ctx (xorBlock iv block) with
    | none => none
    | some next => (aesCbcEncrypt ctx next blocks).map (next::·)

/-- `aes_cbc_decrypt`. -/
def aesCbcDecrypt (ctx : AesContext) : Block → List Block → Option (List Block)
  | _,[] => some []
  | iv,block::blocks =>
    match aesDecrypt ctx block with
    | none => none
    | some out => (aesCbcDecrypt ctx block blocks).map (xorBlock out iv::·)

/-- Twice a byte. -/
def mul2 (x : UInt8) : UInt8 := UInt8.ofNat (f2 x.toNat)

/-- Three times a byte. -/
def mul3 (x : UInt8) : UInt8 := mul2 x ^^^ x

/-- Doubling shifts a byte and adds the polynomial for the top bit. -/
theorem mul2_toBitVec (x : UInt8) : (mul2 x).toBitVec=
    if x.toBitVec.msb then (x.toBitVec <<< 1) ^^^ 0x1b#8 else x.toBitVec <<< 1 := by
  revert x
  apply forall_byte
  decide +kernel

/-- Doubling respects exclusive or: the polynomial cancels when both top bits
are set. -/
theorem additive_mul2 : Additive mul2 := by
  intro x y
  apply UInt8.toBitVec_inj.mp
  rw [UInt8.toBitVec_xor,mul2_toBitVec,mul2_toBitVec,mul2_toBitVec,UInt8.toBitVec_xor,BitVec.msb_xor,
    BitVec.shiftLeft_xor_distrib]
  cases x.toBitVec.msb <;> cases y.toBitVec.msb
  · rfl
  · simp only [Bool.false_xor,if_true,Bool.false_eq_true,if_false]
    ac_rfl
  · simp only [Bool.xor_false,if_true,Bool.false_eq_true,if_false]
    ac_rfl
  · simp only [Bool.xor_self,Bool.false_eq_true,if_false,if_true]
    have hc : (x.toBitVec <<< 1 ^^^ 0x1b#8) ^^^ (y.toBitVec <<< 1 ^^^ 0x1b#8)=
        (x.toBitVec <<< 1 ^^^ y.toBitVec <<< 1) ^^^ (0x1b#8 ^^^ 0x1b#8) := by ac_rfl
    rw [hc,BitVec.xor_self,BitVec.xor_zero]

/-- Every byte has its entry in a table of 256. -/
theorem lookup_table {data : List ℕ} (hl : data.length=256) (w : ℕ → ℕ) (x : UInt8) :
    lookup (table data w) x=UInt8.ofNat (w (data.getD x.toNat 0)) := by
  have hx : x.toNat<data.length := by
    rw [hl]
    exact x.toNat_lt
  rw [lookup,table,List.getD_eq_getElem _ _ (by rwa [List.length_map]),List.getElem_map,
    List.getD_eq_getElem _ _ hx]

/-- A table over all bytes is a function of the byte. -/
theorem lookup_mmData (w : ℕ → ℕ) (x : UInt8) : lookup (table mmData w) x=UInt8.ofNat (w x.toNat) := by
  have hx : x.toNat < mmData.length := by
    rw [mmData,List.length_range]
    exact x.toNat_lt
  rw [lookup_table (by rw [mmData,List.length_range]),List.getD_eq_getElem _ _ hx]
  simp [mmData]

/-- The data of the S-box name every byte. -/
theorem length_sbData : sbData.length=256 := by decide +kernel

/-- The data of the inverse S-box name every byte. -/
theorem length_isbData : isbData.length=256 := by decide +kernel

/-- The data of the S-box are bytes. -/
theorem sbData_lt (x : UInt8) : sbData.getD x.toNat 0<256 := by
  have hall : ∀ s∈sbData,s<256 := by decide +kernel
  have hx : x.toNat < sbData.length := by
    rw [length_sbData]
    exact x.toNat_lt
  rw [List.getD_eq_getElem _ _ hx]
  exact hall _ (List.getElem_mem hx)

/-- The tables of products of the S-box. -/
theorem gfm_sb (x : UInt8) : gfm2Sb x=mul2 (sBox x) ∧ gfm3Sb x=mul3 (sBox x) := by
  have hs : (sBox x).toNat=sbData.getD x.toNat 0 := by
    rw [sBox,lookup_table length_sbData,UInt8.toNat_ofNat']
    exact Nat.mod_eq_of_lt (sbData_lt x)
  have h2 : gfm2Sb x=mul2 (sBox x) := by
    rw [gfm2Sb,lookup_table length_sbData,mul2,hs]
  refine ⟨h2,?_⟩
  rw [gfm3Sb,lookup_table length_sbData,mul3,mul2,hs,sBox,lookup_table length_sbData,f3,UInt8.ofNat_xor]
  rfl

/-- The tables of the inverse mixing are formed by doublings. -/
theorem gfm_eq (x : UInt8) : gfm9 x=mul2 (mul2 (mul2 x)) ^^^ x ∧
    gfmB x=mul2 (mul2 (mul2 x)) ^^^ mul2 x ^^^ x ∧ gfmD x=mul2 (mul2 (mul2 x)) ^^^ mul2 (mul2 x) ^^^ x ∧
      gfmE x=mul2 (mul2 (mul2 x)) ^^^ mul2 (mul2 x) ^^^ mul2 x := by
  rw [gfm9,gfmB,gfmD,gfmE,lookup_mmData,lookup_mmData,lookup_mmData,lookup_mmData]
  revert x
  apply forall_byte
  decide +kernel

/-- The tables respect exclusive or. -/
theorem additive_gfm : Additive gfm9 ∧ Additive gfmB ∧ Additive gfmD ∧ Additive gfmE := by
  have h4 := additive_mul2.comp additive_mul2
  have h8 := additive_mul2.comp h4
  refine ⟨(h8.xor additive_id).congr fun x => (gfm_eq x).1,
    ((h8.xor additive_mul2).xor additive_id).congr fun x => (gfm_eq x).2.1,
    ((h8.xor h4).xor additive_id).congr fun x => (gfm_eq x).2.2.1,
    ((h8.xor h4).xor additive_mul2).congr fun x => (gfm_eq x).2.2.2⟩

/-- The products of the mixing matrix with its inverse on one byte. -/
theorem gfm_products (x : UInt8) :
    gfmE (mul2 x) ^^^ gfmB x ^^^ gfmD x ^^^ gfm9 (mul3 x)=x ∧
      gfmE (mul3 x) ^^^ gfmB (mul2 x) ^^^ gfmD x ^^^ gfm9 x=0 ∧
      gfmE x ^^^ gfmB (mul3 x) ^^^ gfmD (mul2 x) ^^^ gfm9 x=0 ∧
      gfmE x ^^^ gfmB x ^^^ gfmD (mul3 x) ^^^ gfm9 (mul2 x)=0 := by
  rw [gfm9,gfmB,gfmD,gfmE]
  simp only [lookup_mmData]
  revert x
  apply forall_byte
  decide +kernel

/-- The inverse S-box undoes the S-box. -/
theorem isBox_sBox (x : UInt8) : isBox (sBox x)=x := by
  rw [isBox,sBox,lookup_table length_isbData,lookup_table length_sbData]
  revert x
  apply forall_byte
  decide +kernel

/-- A row of the inverse mixing finds the first byte of a mixed column. -/
theorem unmix (p q r s : UInt8) :
    isBox (gfmE (gfm2Sb p ^^^ gfm3Sb q ^^^ sBox r ^^^ sBox s) ^^^
      gfmB (sBox p ^^^ gfm2Sb q ^^^ gfm3Sb r ^^^ sBox s) ^^^
      gfmD (sBox p ^^^ sBox q ^^^ gfm2Sb r ^^^ gfm3Sb s) ^^^
      gfm9 (gfm3Sb p ^^^ sBox q ^^^ sBox r ^^^ gfm2Sb s))=p := by
  obtain ⟨h9,hb,hd,he⟩ := additive_gfm
  simp only [(gfm_sb _).1,(gfm_sb _).2]
  rw [circulant_row he hb hd h9 (fun x => (gfm_products x).1) (fun x => (gfm_products x).2.1)
    (fun x => (gfm_products x).2.2.1) (fun x => (gfm_products x).2.2.2),isBox_sBox]

/-- The other rows are the first one for the column in another turn. -/
theorem unmix_rows (p q r s : UInt8) :
    isBox (gfm9 (gfm2Sb p ^^^ gfm3Sb q ^^^ sBox r ^^^ sBox s) ^^^
      gfmE (sBox p ^^^ gfm2Sb q ^^^ gfm3Sb r ^^^ sBox s) ^^^
      gfmB (sBox p ^^^ sBox q ^^^ gfm2Sb r ^^^ gfm3Sb s) ^^^
      gfmD (gfm3Sb p ^^^ sBox q ^^^ sBox r ^^^ gfm2Sb s))=q ∧
    isBox (gfmD (gfm2Sb p ^^^ gfm3Sb q ^^^ sBox r ^^^ sBox s) ^^^
      gfm9 (sBox p ^^^ gfm2Sb q ^^^ gfm3Sb r ^^^ sBox s) ^^^
      gfmE (sBox p ^^^ sBox q ^^^ gfm2Sb r ^^^ gfm3Sb s) ^^^
      gfmB (gfm3Sb p ^^^ sBox q ^^^ sBox r ^^^ gfm2Sb s))=r ∧
    isBox (gfmB (gfm2Sb p ^^^ gfm3Sb q ^^^ sBox r ^^^ sBox s) ^^^
      gfmD (sBox p ^^^ gfm2Sb q ^^^ gfm3Sb r ^^^ sBox s) ^^^
      gfm9 (sBox p ^^^ sBox q ^^^ gfm2Sb r ^^^ gfm3Sb s) ^^^
      gfmE (gfm3Sb p ^^^ sBox q ^^^ sBox r ^^^ gfm2Sb s))=s := by
  have h0 : ∀ p q r s,sBox p ^^^ gfm2Sb q ^^^ gfm3Sb r ^^^ sBox s=gfm2Sb q ^^^ gfm3Sb r ^^^ sBox s ^^^ sBox p := by
    intros
    ac_rfl
  have h1 : ∀ p q r s,sBox p ^^^ sBox q ^^^ gfm2Sb r ^^^ gfm3Sb s=gfm2Sb r ^^^ gfm3Sb s ^^^ sBox p ^^^ sBox q := by
    intros
    ac_rfl
  have h2 : ∀ p q r s,gfm3Sb p ^^^ sBox q ^^^ sBox r ^^^ gfm2Sb s=gfm2Sb s ^^^ gfm3Sb p ^^^ sBox q ^^^ sBox r := by
    intros
    ac_rfl
  have hq := unmix q r s p
  have hr := unmix r s p q
  have hs := unmix s p q r
  simp only [h0,h1,h2] at hq hr hs ⊢
  refine ⟨?_,?_,?_⟩
  · refine Eq.trans (congrArg isBox ?_) hq
    ac_rfl
  · refine Eq.trans (congrArg isBox ?_) hr
    ac_rfl
  · refine Eq.trans (congrArg isBox ?_) hs
    ac_rfl

/-- The inverse of a round without its key. -/
theorem invMixSubColumns_mixSubColumns (st : Block) : invMixSubColumns (mixSubColumns st)=st := by
  have hc := unmix (st.get 0) (st.get 5) (st.get 10) (st.get 15)
  have hd := unmix (st.get 4) (st.get 9) (st.get 14) (st.get 3)
  have he := unmix (st.get 8) (st.get 13) (st.get 2) (st.get 7)
  have hf := unmix (st.get 12) (st.get 1) (st.get 6) (st.get 11)
  obtain ⟨hc1,hc2,hc3⟩ := unmix_rows (st.get 0) (st.get 5) (st.get 10) (st.get 15)
  obtain ⟨hd1,hd2,hd3⟩ := unmix_rows (st.get 4) (st.get 9) (st.get 14) (st.get 3)
  obtain ⟨he1,he2,he3⟩ := unmix_rows (st.get 8) (st.get 13) (st.get 2) (st.get 7)
  obtain ⟨hf1,hf2,hf3⟩ := unmix_rows (st.get 12) (st.get 1) (st.get 6) (st.get 11)
  apply Vector.ext
  intro i hi
  interval_cases i
  · exact hc
  · exact hf1
  · exact he2
  · exact hd3
  · exact hd
  · exact hc1
  · exact hf2
  · exact he3
  · exact he
  · exact hd1
  · exact hc2
  · exact hf3
  · exact hf
  · exact he1
  · exact hd2
  · exact hc3

/-- The inverse of the last round without its key. -/
theorem invShiftSubRows_shiftSubRows (st : Block) : invShiftSubRows (shiftSubRows st)=st := by
  apply Vector.ext
  intro i hi
  interval_cases i <;> exact isBox_sBox _

/-- A key added twice is gone. -/
theorem xorBlock_xorBlock (s k : Block) : xorBlock (xorBlock s k) k=s := by
  apply Vector.ext
  intro i hi
  rw [xorBlock,xorBlock,Vector.getElem_zipWith,Vector.getElem_zipWith,UInt8.xor_assoc,UInt8.xor_self,UInt8.xor_zero]

/-- There are finitely many blocks. -/
instance : Finite Block := by
  have hb : Finite UInt8 := Finite.of_injective UInt8.toFin fun _ _ h => UInt8.toFin_inj.mp h
  apply Finite.of_injective fun (block : Block) (i : Fin 16) => block[i]
  intro x y h
  apply Vector.ext
  intro i hi
  exact congrFun h ⟨i,hi⟩

/-- What undoes a map of blocks is undone by it. -/
theorem rightInverse_of_leftInverse {f g : Block → Block} (h : ∀ s,g (f s)=s) (s : Block) : f (g s)=s := by
  have hinj : Function.Injective f := Function.LeftInverse.injective h
  obtain ⟨t,rfl⟩ := Finite.surjective_of_injective hinj s
  rw [h]

/-- The round of `aes_encrypt` with a key, undone by that of `aes_decrypt`. -/
theorem decryptRound_encryptRound (s k : Block) : invMixSubColumns (xorBlock (xorBlock (mixSubColumns s) k) k)=s := by
  rw [xorBlock_xorBlock,invMixSubColumns_mixSubColumns]

/-- The round of `aes_decrypt` with a key, undone by that of `aes_encrypt`. -/
theorem encryptRound_decryptRound (s k : Block) : xorBlock (mixSubColumns (invMixSubColumns (xorBlock s k))) k=s := by
  rw [rightInverse_of_leftInverse invMixSubColumns_mixSubColumns,xorBlock_xorBlock]

/-- With a key schedule of any rounds `aes_decrypt` undoes `aes_encrypt` on every
block, and `aes_encrypt` undoes `aes_decrypt`. -/
theorem aes_inverse (ctx : AesContext) (h : ctx.rnd≠0) :
    (∀ block,(aesEncrypt ctx block).bind (aesDecrypt ctx)=some block) ∧
      ∀ block,(aesDecrypt ctx block).bind (aesEncrypt ctx)=some block := by
  constructor
  · intro block
    rw [aesEncrypt,if_neg h]
    dsimp only
    rw [Option.bind_some,aesDecrypt,if_neg h]
    dsimp only
    rw [xorBlock_xorBlock,invShiftSubRows_shiftSubRows,
      foldl_reverse_foldl fun s r => decryptRound_encryptRound s (roundKey ctx r),xorBlock_xorBlock]
  · intro block
    rw [aesDecrypt,if_neg h]
    dsimp only
    rw [Option.bind_some,aesEncrypt,if_neg h]
    dsimp only
    have hback := foldl_reverse_foldl
      (f := fun s r => invMixSubColumns (xorBlock s (roundKey ctx r)))
      (g := fun s r => xorBlock (mixSubColumns s) (roundKey ctx r))
      (fun s r => encryptRound_decryptRound s (roundKey ctx r))
      (List.range' 1 (ctx.rnd.toNat-1)).reverse
      (invShiftSubRows (xorBlock block (roundKey ctx ctx.rnd.toNat)))
    rw [List.reverse_reverse] at hback
    rw [xorBlock_xorBlock,hback,rightInverse_of_leftInverse invShiftSubRows_shiftSubRows,xorBlock_xorBlock]

/-- The key 0, 1, ..., 15. -/
theorem aes_inverse_key :
    (∀ block,(aesEncrypt (aesSetKey ((List.range 16).map UInt8.ofNat) 16) block).bind
        (aesDecrypt (aesSetKey ((List.range 16).map UInt8.ofNat) 16))=some block) ∧
      ∀ block,(aesDecrypt (aesSetKey ((List.range 16).map UInt8.ofNat) 16) block).bind
        (aesEncrypt (aesSetKey ((List.range 16).map UInt8.ofNat) 16))=some block :=
  aes_inverse _ (by decide)

/-- The example of the cipher's standard: the key 0, 1, ..., 15 and the text
00 11 22 ... ff. -/
example : aesEncrypt (aesSetKey ((List.range 16).map UInt8.ofNat) 16) (Vector.ofFn fun i => UInt8.ofNat (17*i))=
    some #v[0x69,0xc4,0xe0,0xd8,0x6a,0x7b,0x04,0x30,0xd8,0xcd,0xb7,0x80,0x70,0xb4,0xc5,0x5a] := by
  decide +kernel

/-- `aes_encrypt` fails on no block of a key with rounds. -/
theorem aesEncrypt_isSome {ctx : AesContext} (h : ctx.rnd≠0) (block : Block) : ∃ out,aesEncrypt ctx block=some out := by
  rw [aesEncrypt,if_neg h]
  exact ⟨_,rfl⟩

/-- `aes_set_key` leaves rounds exactly for the three lengths of a key. -/
theorem aesSetKey_rnd (key : List UInt8) (keylen : ℕ) :
    (aesSetKey key keylen).rnd≠0 ↔ keylen=16 ∨ keylen=24 ∨ keylen=32 := by
  unfold aesSetKey
  split_ifs with h
  · rcases h with rfl | rfl | rfl <;> simp
  · simp [h]

end LorawanServer.Aes
