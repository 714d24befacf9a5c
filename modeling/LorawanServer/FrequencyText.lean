import LorawanServer.FloatNumbers
import LorawanServer.JsonTree

/-!
# Frequencies as text

The whole MHz and the rest in Hz are written as two numbers around a point. The
rest is not filled up with zeros, so it is the fraction of a MHz that is meant
only where it has six digits or is zero. The text of a transmission is read as
its members, so its frequency is right for the same frequencies.
-/

namespace LorawanServer.FrequencyText

open CppRuntime JsonDocument JsonEvents Base64 Records FrameBuilders FloatNumbers
open SimulatedUplink (intText frequency modulation datr codr bandwithValue isPlain_base64Encode)

/-- The number of MHz that is written is the frequency. -/
def FrequencyExact (m : RfmMetaData) : Prop := decimalValue (frequency m)*10^6=m.freq.toNat

/-- The part below one MHz is zero or has six digits. -/
def FillsFraction (freq : UInt32) : Prop := freq.toNat%10^6=0 ∨ 10^5≤freq.toNat%10^6

instance (freq : UInt32) : Decidable (FillsFraction freq) := inferInstanceAs (Decidable (_ ∨ _))

/-- The digits of a positive number below a power of ten. -/
theorem length_decimal_eq_iff {n k : ℕ} (hn : 0<n) (hlt : n<10^(k+1)) :
    (decimal n).length=k+1 ↔ 10^k≤n := by
  have hlow := Nat.lt_digits_length_iff (b := 10) (k := k) (by decide) n
  have hhigh := Nat.lt_digits_length_iff (b := 10) (k := k+1) (by decide) n
  rw [decimal,if_neg (by omega),List.length_map,List.length_reverse,←hlow]
  omega

/-- A number below a power of ten has no more digits than the exponent. -/
theorem length_decimal_le {n k : ℕ} (hlt : n<10^(k+1)) : (decimal n).length≤k+1 := by
  have hhigh := Nat.lt_digits_length_iff (b := 10) (k := k+1) (by decide) n
  rw [decimal]
  split
  · exact Nat.succ_pos k
  · rw [List.length_map,List.length_reverse]
    omega

/-- A number is below the power of ten with as many zeros as it has digits. -/
theorem lt_pow_length_decimal (n : ℕ) : n<10^(decimal n).length := by
  rw [decimal]
  split
  · next hz => rw [hz]; decide
  · rw [List.length_map,List.length_reverse]
    exact Nat.lt_base_pow_length_digits (by decide)

/-- The value of the text of a frequency. -/
theorem decimalValue_frequency (m : RfmMetaData) :
    decimalValue (frequency m)=
      (m.freq.toNat/10^6 : ℕ)+(m.freq.toNat%10^6 : ℕ)/10^(decimal (m.freq.toNat%10^6)).length := by
  have hrest : m.freq.toNat-m.freq.toNat/1000000*1000000=m.freq.toNat%10^6 := by omega
  simp only [frequency,hrest]
  rw [decimalValue_point (isNumeral_decimal _) (isNumeral_decimal _).all_digits,digitsValue_decimal,
    digitsValue_decimal]
  norm_num

/-- The text is exact exactly when the part below one MHz fills its six digits. -/
theorem frequencyExact_iff (m : RfmMetaData) : FrequencyExact m ↔ FillsFraction m.freq := by
  have hsplit : (m.freq.toNat : ℚ)=(m.freq.toNat/10^6 : ℕ)*10^6+(m.freq.toNat%10^6 : ℕ) := by
    have hdiv := Nat.div_add_mod' m.freq.toNat (10^6)
    exact_mod_cast hdiv.symm
  have hlt : m.freq.toNat%10^6<10^(5+1) := Nat.mod_lt _ (by norm_num)
  rw [FrequencyExact,FillsFraction,decimalValue_frequency,hsplit,add_mul,add_right_inj]
  obtain hz|hpos := Nat.eq_zero_or_pos (m.freq.toNat%10^6)
  · rw [hz]
    exact iff_of_true (by norm_num) (.inl rfl)
  · rw [←length_decimal_eq_iff hpos hlt]
    set rest := m.freq.toNat%10^6
    set count := (decimal rest).length
    have hrest : (rest : ℚ)≠0 := Nat.cast_ne_zero.mpr hpos.ne'
    have hten : (10 : ℚ)^count≠0 := pow_ne_zero _ (by norm_num)
    constructor
    · intro h
      refine .inr (Nat.pow_right_injective (le_refl 2 |>.trans (by decide : 2≤10)) ?_)
      rw [div_mul_eq_mul_div,div_eq_iff hten] at h
      exact_mod_cast (mul_left_cancel₀ hrest h).symm
    · rintro (h|h)
      · exact absurd h hpos.ne'
      · rw [h]
        exact div_mul_cancel₀ _ (by norm_num)

/-- When a transmission is sent: at once, or at a time of the gateway. -/
def sendTimeText : Option UInt32 → Bytes
  | none => ascii "\"imme\":true"
  | some sendTime => ascii "\"tmst\":"++decimal sendTime.toNat

/-- The text of `toTxJsonString`: the prefix and the JSON of one transmission. -/
def txJsonText (d : PullResp) : Bytes :=
  d.pullPrefix++
  ascii "\x7b\"txpk\":\x7b"++
  sendTimeText d.tmst++
  ascii ",\"freq\":"++frequency d.reception++
  ascii ",\"rfch\":"++decimal 0++
  ascii ",\"powe\":"++intText d.power++
  ascii ",\"modu\":\""++modulation d.reception++
  ascii "\",\"datr\":\""++datr d.reception++
  ascii "\",\"codr\":\""++codr d.reception++
  ascii "\",\"ipol\":true"++
  ascii ",\"ncrc\":false"++
  ascii ",\"size\":"++decimal d.data.length++
  ascii ",\"data\":\""++base64Encode d.data++
  ascii "\"\x7d\x7d"

/-- The transmission in the text behind the prefix, as a reader of JSON finds it. -/
def txpk (text : Bytes) : Option Members :=
  match document decimalValue (fun _ => false) (text.drop 4) with
  | some (.object members) =>
    match members.lookup (ascii "txpk") with
    | some (.object txpk) => some txpk
    | _ => none
  | _ => none

/-- Every transmission that is built for the packet has the frequency of the
metadata that is used, in MHz. -/
def TxpkExact (packet : SemtechUDPPacket) (payloadString : Bytes) (receivedTime : UInt32) (power : ℤ) : Prop :=
  ∀ d,toTxJsonString packet payloadString receivedTime power=some d →
    ∃ members mhz,txpk (txJsonText d)=some members ∧ members.lookup (ascii "freq")=some (.double mhz) ∧
      mhz*10^6=d.reception.freq.toNat

/-- When the transmission is sent. -/
def sendTime : Option UInt32 → Bytes×Written
  | none => (ascii "imme",.bool true)
  | some sendTime => (ascii "tmst",.integer sendTime.toNat)

/-- The members of a transmission. -/
def txMembers (d : PullResp) : List (Bytes×Written) :=
  [sendTime d.tmst,(ascii "freq",.double (frequency d.reception)),(ascii "rfch",.integer 0),
    (ascii "powe",.integer d.power),(ascii "modu",.string (modulation d.reception)),
    (ascii "datr",.string (datr d.reception)),(ascii "codr",.string (codr d.reception)),
    (ascii "ipol",.bool true),(ascii "ncrc",.bool false),(ascii "size",.integer d.data.length),
    (ascii "data",.string (base64Encode d.data))]

/-- The text of an integer. -/
theorem integer_text (n : ℤ) : (Written.integer n).text=intText n := by
  rw [Written.integer,intText]
  split <;> simp only [Written.int,Written.double,signed,decide_eq_true_eq]

/-- A number that is not negative has no sign. -/
theorem intText_natCast (n : ℕ) : intText n=decimal n := by rw [intText,if_neg (by omega),Int.natAbs_natCast]

/-- Its text is the member. -/
theorem sendTimeText_eq (tmst : Option UInt32) :
    sendTimeText tmst=quoted (sendTime tmst).1++58::(sendTime tmst).2.text := by
  cases tmst with
  | none => rfl
  | some time =>
    rw [sendTime,integer_text,intText_natCast]
    rfl

/-- The text of an object without blanks. -/
theorem compact_text (members : List (Bytes×Written)) :
    (Written.objectWith [58] [44] members).text=
      123::([44].intercalate (members.map fun m => quoted m.1++58::m.2.text)++[125]) := rfl

/-- The pieces of the text, whatever their content, are an object in an object. -/
theorem txText_layout (pullPrefix time freq rfch powe modu datr codr size data : Bytes) :
    pullPrefix++ascii "\x7b\"txpk\":\x7b"++time++ascii ",\"freq\":"++freq++ascii ",\"rfch\":"++rfch++
      ascii ",\"powe\":"++powe++ascii ",\"modu\":\""++modu++ascii "\",\"datr\":\""++datr++
      ascii "\",\"codr\":\""++codr++ascii "\",\"ipol\":true"++ascii ",\"ncrc\":false"++
      ascii ",\"size\":"++size++ascii ",\"data\":\""++data++ascii "\"\x7d\x7d"=
    pullPrefix++123::([44].intercalate [quoted (ascii "txpk")++58::123::([44].intercalate [time,
      quoted (ascii "freq")++58::freq,quoted (ascii "rfch")++58::rfch,quoted (ascii "powe")++58::powe,
      quoted (ascii "modu")++58::quoted modu,quoted (ascii "datr")++58::quoted datr,
      quoted (ascii "codr")++58::quoted codr,quoted (ascii "ipol")++58::ascii "true",
      quoted (ascii "ncrc")++58::ascii "false",quoted (ascii "size")++58::size,
      quoted (ascii "data")++58::quoted data]++[125])]++[125]) := by
  simp only [List.intercalate_cons_cons,List.intercalate_singleton,quoted,List.append_assoc,List.cons_append,
    List.nil_append]
  rfl

/-- The text is the prefix and an object of these members. -/
theorem txJsonText_eq (d : PullResp) :
    txJsonText d=
      d.pullPrefix++(Written.objectWith [58] [44] [(ascii "txpk",.objectWith [58] [44] (txMembers d))]).text := by
  have hzero : intText 0=decimal 0 := intText_natCast 0
  simp only [compact_text,txMembers,List.map_cons,List.map_nil,←sendTimeText_eq,integer_text,intText_natCast,hzero,
    Written.double,Written.string,Written.bool,if_true,Bool.false_eq_true,if_false]
  exact txText_layout d.pullPrefix (sendTimeText d.tmst) (frequency d.reception) (decimal 0) (intText d.power)
    (modulation d.reception) (datr d.reception) (codr d.reception) (decimal d.data.length) (base64Encode d.data)

/-- The value of the time. -/
def sendTimeValue : Option UInt32 → Bytes×Json
  | none => (ascii "imme",.bool true)
  | some sendTime => (ascii "tmst",integerValue decimalValue sendTime.toNat)

/-- The values of the members. -/
def txValues (d : PullResp) : Members :=
  [sendTimeValue d.tmst,(ascii "freq",.double (decimalValue (frequency d.reception))),
    (ascii "rfch",integerValue decimalValue 0),(ascii "powe",integerValue decimalValue d.power),
    (ascii "modu",.string (modulation d.reception)),(ascii "datr",.string (datr d.reception)),
    (ascii "codr",.string (codr d.reception)),(ascii "ipol",.bool true),(ascii "ncrc",.bool false),
    (ascii "size",integerValue decimalValue d.data.length),(ascii "data",.string (base64Encode d.data))]

section Reading

variable {number : Bytes → ℚ} {tooBig : Bytes → Bool}

/-- A frequency is a number with a fraction. -/
theorem readsAs_frequency (m : RfmMetaData) (hbig : tooBig (frequency m)=false) :
    (Written.double (frequency m)).ReadsAs number tooBig (.double (number (frequency m))) := by
  have hrest := isNumeral_decimal (m.freq.toNat-m.freq.toNat/1000000*1000000)
  have htext : frequency m=signed false (decimal (m.freq.toNat/1000000)++
      (46::decimal (m.freq.toNat-m.freq.toNat/1000000*1000000)++[])) := by
    rw [List.append_nil]
    rfl
  rw [htext] at hbig ⊢
  exact readsAs_double (isNumeral_decimal _) (.digits hrest.ne_nil hrest.all_digits) .none
    (.inl (List.cons_ne_nil _ _)) hbig

/-- The name of a modulation is clean. -/
theorem isClean_modulation (m : RfmMetaData) : ∀ byte∈modulation m,IsClean byte := by
  rw [modulation]
  cases m.modu <;> exact isClean_of_all (by decide +kernel)

/-- An integer is clean. -/
theorem isClean_intText (n : ℤ) : ∀ byte∈intText n,IsClean byte := by
  rw [intText]
  split
  · exact List.forall_mem_cons.mpr ⟨by decide,isClean_decimal _⟩
  · exact isClean_decimal _

/-- A data rate is clean. -/
theorem isClean_datr (m : RfmMetaData) : ∀ byte∈datr m,IsClean byte := by
  simp only [datr,List.forall_mem_append]
  exact ⟨⟨⟨isClean_of_all (by decide +kernel),isClean_intText _⟩,isClean_of_all (by decide +kernel)⟩,
    isClean_decimal _⟩

/-- A coding rate is clean. -/
theorem isClean_codr (m : RfmMetaData) : ∀ byte∈codr m,IsClean byte := by
  rw [codr]
  cases m.codingRate <;> exact isClean_of_all (by decide +kernel)

/-- So is a text in base64. -/
theorem isClean_base64Encode (data : Bytes) : ∀ byte∈base64Encode data,IsClean byte :=
  fun byte hb => isClean_of_isPlain (isPlain_base64Encode data byte hb)

end Reading

/-- The members are read as their values. -/
theorem readsAs_txMembers (d : PullResp) :
    (Written.objectWith [58] [44] (txMembers d)).ReadsAs decimalValue (fun _ => false) (.object (txValues d)) := by
  have hint : ∀ n : ℤ,(Written.integer n).ReadsAs decimalValue (fun _ => false) (integerValue decimalValue n) :=
    fun n => readsAs_integer n rfl
  have hsend : MemberReadsAs decimalValue (fun _ => false) (sendTime d.tmst) (sendTimeValue d.tmst) := by
    cases d.tmst with
    | none => exact (readsAs_bool true).member (ascii "imme")
    | some time => exact (hint time.toNat).member (ascii "tmst")
  have hclean : ((sendTime d.tmst).1.all fun byte => decide (IsClean byte))=true := by
    cases d.tmst <;> rfl
  refine readsAs_compact ((sendTime d.tmst).1::(["freq","rfch","powe","modu","datr","codr","ipol","ncrc","size",
    "data"].map ascii)) rfl ?_ (List.cons_ne_nil _ _) ?_
  · rw [List.all_cons,hclean]
    decide +kernel
  · exact .cons hsend <| .cons ((readsAs_frequency _ rfl).member _) <| .cons ((hint 0).member _) <|
      .cons ((hint d.power).member _) <| .cons ((readsAs_string (isClean_modulation _)).member _) <|
      .cons ((readsAs_string (isClean_datr _)).member _) <| .cons ((readsAs_string (isClean_codr _)).member _) <|
      .cons ((readsAs_bool true).member _) <| .cons ((readsAs_bool false).member _) <|
      .cons ((hint d.data.length).member _) <| .cons ((readsAs_string (isClean_base64Encode _)).member _) .nil

/-- The transmission behind four bytes of prefix is found with its values. -/
theorem txpk_txJsonText {d : PullResp} (h : d.pullPrefix.length=4) : txpk (txJsonText d)=some (txValues d) := by
  have hobject : (Written.objectWith [58] [44] [(ascii "txpk",.objectWith [58] [44] (txMembers d))]).ReadsAs
      decimalValue (fun _ => false) (.object [(ascii "txpk",.object (txValues d))]) :=
    readsAs_compact [ascii "txpk"] rfl (by decide +kernel) (List.cons_ne_nil _ _)
      (.cons ((readsAs_txMembers d).member _) .nil)
  rw [txpk,txJsonText_eq,List.drop_left' h,document_written hobject.isRead hobject.builds]
  rfl

/-- The frequency among the values. -/
theorem lookup_freq (d : PullResp) :
    (txValues d).lookup (ascii "freq")=some (.double (decimalValue (frequency d.reception))) := by
  rw [txValues]
  cases d.tmst <;> rfl

/-- A transmission that is built has a prefix of four bytes and uses the first
metadata. -/
theorem toTxJsonString_some {packet : SemtechUDPPacket} {payloadString : Bytes} {receivedTime : UInt32} {power : ℤ}
    {d : PullResp} (h : toTxJsonString packet payloadString receivedTime power=some d) :
    d.pullPrefix.length=4 ∧ packet.metadata.head?=some d.reception := by
  rw [toTxJsonString] at h
  split at h
  · cases h
  · next hm =>
    rw [←Option.some.inj h,hm]
    exact ⟨rfl,rfl⟩

/-- The transmissions built for a packet are exact exactly when the frequency
that is used fills its fraction. -/
theorem txpkExact_iff (packet : SemtechUDPPacket) (payloadString : Bytes) (receivedTime : UInt32) (power : ℤ) :
    TxpkExact packet payloadString receivedTime power ↔
      ∀ reception∈packet.metadata.head?,FillsFraction reception.freq := by
  constructor
  · intro h reception hr
    have hne : packet.metadata≠[] := by
      rintro hnil
      rw [hnil] at hr
      cases hr
    obtain ⟨d,hd⟩ := toTxJsonString_isSome hne payloadString receivedTime power
    obtain ⟨hpull,hhead⟩ := toTxJsonString_some hd
    obtain ⟨members,mhz,hmembers,hlookup,hmhz⟩ := h d hd
    rw [txpk_txJsonText hpull] at hmembers
    rw [←Option.some.inj hmembers,lookup_freq] at hlookup
    obtain rfl := Json.double.inj (Option.some.inj hlookup)
    have hsame : d.reception=reception := Option.some.inj (hhead.symm.trans hr)
    exact hsame ▸ (frequencyExact_iff d.reception).mp hmhz
  · intro h d hd
    obtain ⟨hpull,hhead⟩ := toTxJsonString_some hd
    exact ⟨_,_,txpk_txJsonText hpull,lookup_freq d,(frequencyExact_iff d.reception).mpr (h _ hhead)⟩

/-- The text of a frequency is exact, and so is every transmission that uses
it, exactly for frequencies that fill their fraction. -/
theorem frequency_text_iff (m : RfmMetaData) (packet : SemtechUDPPacket) (payloadString : Bytes)
    (receivedTime : UInt32) (power : ℤ) :
    (FrequencyExact m ↔ FillsFraction m.freq) ∧
      (TxpkExact packet payloadString receivedTime power ↔
        ∀ reception∈packet.metadata.head?,FillsFraction reception.freq) :=
  ⟨frequencyExact_iff m,txpkExact_iff packet payloadString receivedTime power⟩

/-- The channel 868.05 MHz is written as 868.5 MHz with a lost zero, also in the
transmission that answers on it. -/
theorem not_frequency_text_lostZero :
    ¬ FrequencyExact {RfmMetaData.initial 0 0 with freq := 868050000} ∧
      ¬ TxpkExact {SemtechUDPPacket.empty with metadata := [{RfmMetaData.initial 0 0 with freq := 868050000}]}
        [] 0 0 := by
  refine ⟨fun h => absurd ((frequencyExact_iff _).mp h) (by decide),fun h => ?_⟩
  exact absurd ((txpkExact_iff _ _ _ _).mp h _ rfl) (by decide)

end LorawanServer.FrequencyText
