import LorawanServer.FrequencyText

/-!
# Receptions as text

`rfmMetaData::toJsonString` writes a reception with its payload as a JSON
object, `rfmMetaData::parseRX` reads one. The reader truncates the frequency to
whole MHz before it multiplies, and the coding rate 4/8 is written as a fraction
that the reader takes for 4/6. Every other member comes back.
-/

namespace LorawanServer.ReceptionText

open CppRuntime JsonDocument JsonEvents Base64 Records Datagram FloatNumbers FrequencyText
open SimulatedUplink (intText frequency modulation datr codr bandwithValue floatText civilDate twoDigits)

/-- `ltimeString` with the format `%FT%T`: the date and the time of day at the
given distance from the universal time. Time zero stands for the clock. -/
def ltimeString (now : ℤ) (zone : ℤ → ℤ) (value : ℤ) : Bytes :=
  let value := if value=0 then now else value
  let seconds := value+zone value
  -- the calendar repeats after four hundred years
  let cycle := 146097*86400
  let date := civilDate ((seconds%cycle).toNat/86400)
  let second := (seconds%86400).toNat
  intText (date.1+400*(seconds/cycle))++45::twoDigits date.2.1++45::twoDigits date.2.2++
    84::twoDigits (second/3600)++58::twoDigits (second/60%60)++58::twoDigits (second%60)

/-- Seconds between the two epochs. -/
def gpsUnixEpochDiff : ℤ := 315964800

/-- Seconds of the second clock at which a leap second was added. -/
def gpsLeap : List UInt32 :=
  [46828800,78364801,109900802,173059203,252028804,315187205,346723206,393984007,425520008,457056009,504489610,
    551750411,599184012,820108813,914803214,1025136015,1119744016,1167264017]

/-- `shouldAddLeap`. -/
def shouldAddLeap (gps curGPSLeap totalLeaps : UInt32) (isUnixToGPS : Bool) : Bool :=
  if isUnixToGPS then curGPSLeap-totalLeaps≤gps else curGPSLeap≤gps

/-- `countLeaps`. -/
def countLeaps (gps : UInt32) (isUnixToGPS : Bool) : ℕ :=
  gpsLeap.zipIdx.countP fun leap => shouldAddLeap gps leap.1 (UInt32.ofNat leap.2) isUnixToGPS

/-- `utc2gps`. -/
def utc2gps (value : ℤ) : UInt32 :=
  let gps := value-gpsUnixEpochDiff
  UInt32.ofInt (gps+countLeaps (UInt32.ofInt gps) true)

example : utc2gps 1700000000=1384035218 := by decide +kernel

/-- `rfmMetaData::tmms`. -/
def tmms (m : RfmMetaData) : UInt32 := utc2gps m.t

/-- `rfmMetaData::toJsonString`. -/
def toJsonString (now : ℤ) (zone : ℤ → ℤ) (m : RfmMetaData) (payload : Bytes) : Bytes :=
  ascii "\x7b"++
  ascii "\"time\":\""++(ltimeString now zone m.t++ascii "Z")++
  ascii "\",\"tmms\":"++decimal (tmms m).toNat++
  ascii ",\"tmst\":"++decimal m.tmst.toNat++
  ascii ",\"freq\":"++frequency m++
  ascii ",\"chan\":"++decimal m.chan.toNat++
  ascii ",\"rfch\":"++decimal m.rfch.toNat++
  ascii ",\"stat\":"++intText m.stat.toInt++
  ascii ",\"modu\":\""++modulation m++
  ascii "\",\"datr\":\""++datr m++
  ascii "\",\"codr\":\""++codr m++
  ascii "\",\"rssi\":"++intText m.rssi.toInt++
  ascii ",\"lsnr\":"++floatText m.lsnr++
  ascii ",\"size\":"++decimal payload.length++
  ascii ",\"data\":\""++base64Encode payload++
  ascii "\"\x7d"

/-- The text of a reception is read into any other one with these members of
the first, and the payload is returned. -/
def Restored (host : Host) (zone : ℤ → ℤ) (m other : RfmMetaData) (payload : Bytes) : Prop :=
  ∃ members restored retSize,
    document decimalValue (fun _ => false) (toJsonString host.now zone m payload)=some (.object members) ∧
    parseRX host other members=.ok (restored,retSize,payload) ∧
    restored.freq=m.freq ∧ restored.tmst=m.tmst ∧ restored.chan=m.chan ∧ restored.rfch=m.rfch ∧
    restored.stat=m.stat ∧ restored.modu=m.modu ∧ restored.spreadingFactor=m.spreadingFactor ∧
    restored.bandwith=m.bandwith ∧ restored.codingRate=m.codingRate ∧ restored.rssi=m.rssi

section Text

variable (now : ℤ) (zone : ℤ → ℤ) (m : RfmMetaData) (payload : Bytes)

/-- The time as it is written. -/
def timeText : Bytes := ltimeString now zone m.t++ascii "Z"

/-- The members that are written, with a given text for the ratio. -/
def rxMembers (lsnr : Written) : List (Bytes×Written) :=
  [(ascii "time",.string (timeText now zone m)),(ascii "tmms",.integer (tmms m).toNat),
    (ascii "tmst",.integer m.tmst.toNat),(ascii "freq",.double (frequency m)),(ascii "chan",.integer m.chan.toNat),
    (ascii "rfch",.integer m.rfch.toNat),(ascii "stat",.integer m.stat.toInt),
    (ascii "modu",.string (modulation m)),(ascii "datr",.string (datr m)),(ascii "codr",.string (codr m)),
    (ascii "rssi",.integer m.rssi.toInt),(ascii "lsnr",lsnr),(ascii "size",.integer payload.length),
    (ascii "data",.string (base64Encode payload))]

/-- The values of these members. -/
def rxValues (lsnr : Json) : Members :=
  [(ascii "time",.string (timeText now zone m)),(ascii "tmms",integerValue decimalValue (tmms m).toNat),
    (ascii "tmst",integerValue decimalValue m.tmst.toNat),(ascii "freq",.double (decimalValue (frequency m))),
    (ascii "chan",integerValue decimalValue m.chan.toNat),(ascii "rfch",integerValue decimalValue m.rfch.toNat),
    (ascii "stat",integerValue decimalValue m.stat.toInt),(ascii "modu",.string (modulation m)),
    (ascii "datr",.string (datr m)),(ascii "codr",.string (codr m)),
    (ascii "rssi",integerValue decimalValue m.rssi.toInt),(ascii "lsnr",lsnr),
    (ascii "size",integerValue decimalValue payload.length),(ascii "data",.string (base64Encode payload))]

/-- The pieces of the text, whatever their content, are an object. -/
theorem rxText_layout (time tmms tmst freq chan rfch stat modu datr codr rssi lsnr size data : Bytes) :
    ascii "\x7b"++ascii "\"time\":\""++time++ascii "\",\"tmms\":"++tmms++ascii ",\"tmst\":"++tmst++
      ascii ",\"freq\":"++freq++ascii ",\"chan\":"++chan++ascii ",\"rfch\":"++rfch++ascii ",\"stat\":"++stat++
      ascii ",\"modu\":\""++modu++ascii "\",\"datr\":\""++datr++ascii "\",\"codr\":\""++codr++
      ascii "\",\"rssi\":"++rssi++ascii ",\"lsnr\":"++lsnr++ascii ",\"size\":"++size++
      ascii ",\"data\":\""++data++ascii "\"\x7d"=
    123::([44].intercalate [quoted (ascii "time")++58::quoted time,quoted (ascii "tmms")++58::tmms,
      quoted (ascii "tmst")++58::tmst,quoted (ascii "freq")++58::freq,quoted (ascii "chan")++58::chan,
      quoted (ascii "rfch")++58::rfch,quoted (ascii "stat")++58::stat,quoted (ascii "modu")++58::quoted modu,
      quoted (ascii "datr")++58::quoted datr,quoted (ascii "codr")++58::quoted codr,
      quoted (ascii "rssi")++58::rssi,quoted (ascii "lsnr")++58::lsnr,quoted (ascii "size")++58::size,
      quoted (ascii "data")++58::quoted data]++[125]) := by
  simp only [List.intercalate_cons_cons,List.intercalate_singleton,quoted,List.append_assoc,List.cons_append,
    List.nil_append]
  rfl

/-- The text is the object of the members. -/
theorem toJsonString_eq {lsnr : Written} (h : lsnr.text=floatText m.lsnr) :
    toJsonString now zone m payload=(Written.objectWith [58] [44] (rxMembers now zone m payload lsnr)).text := by
  simp only [compact_text,rxMembers,List.map_cons,List.map_nil,integer_text,intText_natCast,h,
    Written.double,Written.string]
  exact rxText_layout (timeText now zone m) (decimal (tmms m).toNat) (decimal m.tmst.toNat) (frequency m)
    (decimal m.chan.toNat) (decimal m.rfch.toNat) (intText m.stat.toInt) (modulation m) (datr m) (codr m)
    (intText m.rssi.toInt) (floatText m.lsnr) (decimal payload.length) (base64Encode payload)

/-- Two digits are clean. -/
theorem isClean_twoDigits (value : ℕ) : ∀ byte∈twoDigits value,IsClean byte :=
  fun byte hb => isClean_of_isPlain (SimulatedUplink.isPlain_twoDigits value byte hb)

/-- The time is clean. -/
theorem isClean_timeText : ∀ byte∈timeText now zone m,IsClean byte := by
  simp only [timeText,ltimeString,List.forall_mem_append,List.forall_mem_cons]
  exact ⟨⟨⟨⟨⟨⟨isClean_intText _,by decide,isClean_twoDigits _⟩,by decide,isClean_twoDigits _⟩,by decide,
    isClean_twoDigits _⟩,by decide,isClean_twoDigits _⟩,by decide,isClean_twoDigits _⟩,
    isClean_of_all (by decide +kernel)⟩

/-- The text is read as the values, with some value for the ratio. -/
theorem document_toJsonString :
    ∃ lsnr,document decimalValue (fun _ => false) (toJsonString now zone m payload)=
      some (.object (rxValues now zone m payload lsnr)) := by
  obtain ⟨whole,fraction,behind,htext,hw,hf,hb,-⟩ := floatText_shape m.lsnr
  obtain ⟨written,lsnr,hwritten,hlsnr⟩ := @exists_readsAs_numeral decimalValue (fun _ => false) (decide (m.lsnr<0))
    whole fraction behind hw hf hb rfl
  have hint : ∀ n : ℤ,(Written.integer n).ReadsAs decimalValue (fun _ => false) (integerValue decimalValue n) :=
    fun n => readsAs_integer n rfl
  have hobject : (Written.objectWith [58] [44] (rxMembers now zone m payload written)).ReadsAs decimalValue
      (fun _ => false) (.object (rxValues now zone m payload lsnr)) := by
    refine readsAs_compact (["time","tmms","tmst","freq","chan","rfch","stat","modu","datr","codr","rssi","lsnr",
      "size","data"].map ascii) rfl (by decide +kernel) (List.cons_ne_nil _ _) ?_
    exact .cons ((readsAs_string (isClean_timeText now zone m)).member _) <| .cons ((hint (tmms m).toNat).member _) <|
      .cons ((hint m.tmst.toNat).member _) <| .cons ((readsAs_frequency m rfl).member _) <|
      .cons ((hint m.chan.toNat).member _) <| .cons ((hint m.rfch.toNat).member _) <|
      .cons ((hint m.stat.toInt).member _) <| .cons ((readsAs_string (isClean_modulation m)).member _) <|
      .cons ((readsAs_string (isClean_datr m)).member _) <| .cons ((readsAs_string (isClean_codr m)).member _) <|
      .cons ((hint m.rssi.toInt).member _) <| .cons (hlsnr.member _) <| .cons ((hint payload.length).member _) <|
      .cons ((readsAs_string (isClean_base64Encode payload)).member _) .nil
  refine ⟨lsnr,?_⟩
  rw [toJsonString_eq now zone m payload (hwritten.trans htext.symm),document_written hobject.isRead hobject.builds]

end Text

/-- A digit is neither a blank nor a sign. -/
theorem not_special_of_isDigit {byte : UInt8} (h : isDigit byte=true) : isCSpace byte=false ∧ byte≠45 ∧ byte≠43 := by
  simp only [isDigit,Bool.and_eq_true,decide_eq_true_eq,UInt8.le_iff_toNat_le] at h
  simp only [isCSpace,Bool.or_eq_false_iff,Bool.and_eq_false_iff,decide_eq_false_iff_not,UInt8.le_iff_toNat_le,
    ne_eq,←UInt8.toNat_inj]
  refine ⟨⟨?_,.inr ?_⟩,?_,?_⟩ <;> simp only [UInt8.reduceToNat] at h ⊢ <;> omega

/-- An `int` is read from its text. -/
theorem atoi_intText {n : ℤ} (hlow : -2^31≤n) (hhigh : n<2^31) : atoi (intText n)=n := by
  have hd := isNumeral_decimal n.natAbs
  have hscan := @scan_append isDigit _ [] hd.all_digits (fun _ hb => absurd hb (Option.not_mem_none _))
  rw [List.append_nil] at hscan
  rw [atoi,cString_of_clean (isClean_intText n),intText]
  by_cases hneg : n<0
  · have hspace : (45::decimal n.natAbs).dropWhile isCSpace=45::decimal n.natAbs := rfl
    simp only [if_pos hneg,hspace,hscan.1,digitsValue_decimal]
    rw [Int.bmod_eq_of_le (by omega) (by omega)]
    omega
  · obtain ⟨first,more,hdigits⟩ := List.exists_cons_of_ne_nil hd.ne_nil
    obtain ⟨hblank,h45,h43⟩ := not_special_of_isDigit (hd.all_digits first (hdigits ▸ List.mem_cons_self))
    have hspace : (decimal n.natAbs).dropWhile isCSpace=decimal n.natAbs := by
      rw [hdigits,List.dropWhile_cons,hblank,if_neg Bool.false_ne_true]
    simp only [if_neg hneg,hspace]
    split
    · next heq => exact absurd (List.cons.inj (hdigits.symm.trans heq)).1 h45
    · next heq => exact absurd (List.cons.inj (hdigits.symm.trans heq)).1 h43
    · rw [hscan.1,digitsValue_decimal,Int.bmod_eq_of_le (by omega) (by omega)]
      omega

/-- A bandwidth is read from its number. -/
theorem bandwidthOf_bandwithValue (b : Bandwidth) : bandwidthOf (bandwithValue b)=b := by cases b <;> rfl

/-- The letter B is none of the bytes of an integer. -/
theorem letterB_notMem_intText (n : ℤ) : 66∉intText n := by
  have hdecimal : 66∉decimal n.natAbs := fun hb => absurd ((isNumeral_decimal _).all_digits 66 hb) (by decide)
  rw [intText]
  split
  · exact List.not_mem_cons_of_ne_of_not_mem (by decide) hdecimal
  · exact hdecimal

/-- An `int` has at most eleven letters. -/
theorem length_intText_le {n : ℤ} (hlow : -2^31≤n) (hhigh : n<2^31) : (intText n).length≤11 := by
  have hdigits : (decimal n.natAbs).length≤9+1 := length_decimal_le (by omega)
  rw [intText]
  split
  · exact Nat.succ_le_succ hdigits
  · omega

/-- A data rate is read from its text. -/
theorem setDatr_datr {m : RfmMetaData} (hlow : -2^31 ≤ m.spreadingFactor) (hhigh : m.spreadingFactor<2^31)
    (other : RfmMetaData) :
    setDatr other (datr m)=.ok {other with spreadingFactor := m.spreadingFactor,bandwith := m.bandwith} := by
  have htext : datr m=83::70::(intText m.spreadingFactor++66::87::decimal (bandwithValue m.bandwith)) := by
    rw [datr,List.append_assoc,List.append_assoc]
    rfl
  have hlength := length_intText_le hlow hhigh
  have hwidth : atoi (decimal (bandwithValue m.bandwith))=bandwithValue m.bandwith := by
    rw [←intText_natCast]
    exact atoi_intText (by omega) (by cases m.bandwith <;> decide)
  rw [htext,setDatr_factor_width (letterB_notMem_intText _) (by omega),atoi_intText hlow hhigh,hwidth,
    bandwidthOf_bandwithValue]

/-- An unsigned number of 32 bits is one for the reader. -/
theorem uint_integerValue {n : ℕ} (h : n<2^32) : (integerValue decimalValue n).uint?=some n := by
  rw [integerValue,if_pos (by omega),Json.uint?,if_pos (by omega),Int.toNat_natCast]

/-- An `int` is one for the reader. -/
theorem int_integerValue {n : ℤ} (hlow : -2^31≤n) (hhigh : n<2^31) : (integerValue decimalValue n).int?=some n := by
  rw [integerValue,if_pos (by omega),Json.int?,if_pos ⟨hlow,hhigh⟩]

/-- A member that is there is assigned. -/
theorem setMember_some {α β : Type} {members : Members} {name : String} {get : Json → Option α} {value : α}
    (h : getMember members name get=some value) (set : β → α → β) (object : β) :
    setMember members name get set object=set object value := by rw [setMember,h]

/-- A member that is found is read. -/
theorem getMember_of_lookup {α : Type} {members : Members} {name : String} {value : Json}
    (h : members.lookup (ascii name)=some value) (get : Json → Option α) : getMember members name get=get value := by
  rw [getMember,h,Option.bind_some]

/-- The ratio is assigned if it is a decimal. -/
theorem setMember_lsnr (members : Members) (object : RfmMetaData) :
    ∃ ratio,setMember members "lsnr" Json.float? (fun m v => {m with lsnr := v}) object=
      {object with lsnr := ratio} := by
  rw [setMember]
  split
  · exact ⟨_,rfl⟩
  · exact ⟨object.lsnr,rfl⟩

/-- The whole MHz of the text of a frequency. -/
theorem truncate_frequency (m : RfmMetaData) : truncate (decimalValue (frequency m))=(m.freq.toNat/10^6 : ℕ) := by
  have hnonneg : 0≤decimalValue (frequency m) := by
    rw [decimalValue_frequency]
    positivity
  have hfloor : truncate (decimalValue (frequency m))=⌊decimalValue (frequency m)⌋ := by
    rw [truncate,Rat.floor_def',Int.tdiv_eq_ediv_of_nonneg (Rat.num_nonneg.mpr hnonneg)]
  set rest := m.freq.toNat%10^6
  have hpow : (0 : ℚ)<10^(decimal rest).length := by positivity
  have hfraction : (rest : ℚ)/10^(decimal rest).length<1 := by
    rw [div_lt_one hpow]
    exact_mod_cast lt_pow_length_decimal rest
  have hrest : (0 : ℚ)≤rest/10^(decimal rest).length := by positivity
  rw [hfloor,decimalValue_frequency,Int.floor_eq_iff]
  rw [Int.cast_natCast]
  exact ⟨le_add_of_nonneg_right hrest,(add_lt_add_iff_left _).mpr hfraction⟩

/-- Whole MHz come back, and no other frequency does. -/
theorem freq_restored_iff (freq : UInt32) :
    UInt32.ofInt ((freq.toNat/10^6 : ℕ) : ℤ)*1000000=freq ↔ freq.toNat%10^6=0 := by
  have hlt := freq.toNat_lt
  have hmhz : (UInt32.ofInt ((freq.toNat/10^6 : ℕ) : ℤ)*1000000).toNat=freq.toNat/10^6*10^6 := by
    have hmillion : (1000000 : UInt32).toNat=10^6 := rfl
    rw [UInt32.toNat_mul,IdentityText.uint32_ofInt_toNat (by omega),hmillion]
    exact Nat.mod_eq_of_lt (by omega)
  rw [←UInt32.toNat_inj,hmhz]
  omega

/-- The coding rate that a name is taken for. -/
def restoredRate : CodingRate → CodingRate
  | .off | .cr48 => .cr46
  | rate => rate

/-- The name of a coding rate is read. -/
theorem setCodr_codr (m other : RfmMetaData) :
    setCodr other (codr m)={other with codingRate := restoredRate m.codingRate} := by
  rw [codr]
  cases m.codingRate <;> rfl

/-- A coding rate comes back from its name, but 4/8 does not. -/
theorem restoredRate_eq_iff {rate : CodingRate} (h : rate≠.off) : restoredRate rate=rate ↔ rate≠.cr48 := by
  cases rate
  case off => exact absurd rfl h
  all_goals decide

/-- The name of a modulation is read. -/
theorem setModulation_modulation (m other : RfmMetaData) :
    setModulation other (modulation m)={other with modu := m.modu} := by
  rw [modulation]
  cases m.modu <;> rfl

/-- A byte comes back from its number. -/
theorem uint8_ofInt_toNat (value : UInt8) : UInt8.ofInt (value.toNat : ℤ)=value := by
  have hlt := value.toNat_lt
  have hmod : ((value.toNat : ℤ)%2^8).toNat=value.toNat := by omega
  rw [UInt8.ofInt,hmod,UInt8.ofNat_toNat]

/-- What the reader makes of the values: every member of the text, the
frequency in whole MHz, and the coding rate that its name stands for. -/
theorem parseRX_rxValues {m : RfmMetaData} (hlow : -2^31 ≤ m.spreadingFactor) (hhigh : m.spreadingFactor<2^31)
    (host : Host) (zone : ℤ → ℤ) (other : RfmMetaData) (payload : Bytes) (lsnr : Json) :
    ∃ restored retSize,parseRX host other (rxValues host.now zone m payload lsnr)=.ok (restored,retSize,payload) ∧
      restored.freq=UInt32.ofInt ((m.freq.toNat/10^6 : ℕ) : ℤ)*1000000 ∧
      restored.codingRate=restoredRate m.codingRate ∧
      restored.tmst=m.tmst ∧ restored.chan=m.chan ∧ restored.rfch=m.rfch ∧
      restored.stat=m.stat ∧ restored.modu=m.modu ∧ restored.spreadingFactor=m.spreadingFactor ∧
      restored.bandwith=m.bandwith ∧ restored.rssi=m.rssi := by
  set values := rxValues host.now zone m payload lsnr with hvalues
  have hbytes := And.intro m.chan.toNat_lt m.rfch.toNat_lt
  have hsigned := And.intro m.stat.le_toInt m.stat.toInt_lt
  have hstrength := And.intro m.rssi.le_toInt m.rssi.toInt_lt
  have htime : getMember values "time" Json.string?=some (cString (timeText host.now zone m)) := rfl
  have hint : ∀ {name : String} {n : ℤ},values.lookup (ascii name)=some (integerValue decimalValue n) →
      -2^31≤n → n<2^31 → getMember values name Json.int?=some n :=
    fun hfind hlow hhigh => (getMember_of_lookup hfind _).trans (int_integerValue hlow hhigh)
  have htmst : getMember values "tmst" Json.uint?=some m.tmst.toNat :=
    (getMember_of_lookup (show _=some (integerValue decimalValue m.tmst.toNat) from rfl) _).trans
      (uint_integerValue m.tmst.toNat_lt)
  have hfreq : getMember values "freq" Json.double?=some (decimalValue (frequency m)) := rfl
  have hchan : getMember values "chan" Json.int?=some m.chan.toNat := hint rfl (by omega) (by omega)
  have hrfch : getMember values "rfch" Json.int?=some m.rfch.toNat := hint rfl (by omega) (by omega)
  have hstat : getMember values "stat" Json.int?=some m.stat.toInt := hint rfl (by omega) (by omega)
  have hrssi : getMember values "rssi" Json.int?=some m.rssi.toInt := hint rfl (by omega) (by omega)
  have hmodu : getMember values "modu" Json.string?=some (modulation m) :=
    congrArg some (cString_of_clean (isClean_modulation m))
  have hdatr : getMember values "datr" Json.string?=some (datr m) :=
    congrArg some (cString_of_clean (isClean_datr m))
  have hcodr : getMember values "codr" Json.string?=some (codr m) :=
    congrArg some (cString_of_clean (isClean_codr m))
  have hdata : getMember values "data" Json.string?=some (base64Encode payload) :=
    congrArg some (cString_of_clean (isClean_base64Encode payload))
  have hframe : parseFrame values=payload := by
    rw [parseFrame,hdata]
    simp only [base64Decode_base64Encode,Option.getD_some]
  rw [parseRX]
  simp only [setMember_some htime,setMember_some htmst,setMember_some hfreq,setMember_some hchan,
    setMember_some hrfch,setMember_some hstat,setMember_some hmodu,setMember_some hcodr,setMember_some hrssi,
    parseDatr,hdatr,setDatr_datr hlow hhigh,hframe,truncate_frequency,setModulation_modulation,setCodr_codr,
    bind,Except.bind,pure,Except.pure]
  obtain ⟨ratio,hratio⟩ := setMember_lsnr values _
  rw [hratio]
  exact ⟨_,_,rfl,rfl,rfl,UInt32.ofNat_toNat,uint8_ofInt_toNat _,uint8_ofInt_toNat _,Int8.ofInt_toInt _,rfl,rfl,rfl,
    Int16.ofInt_toInt _⟩

/-- A reception is restored exactly when its frequency and its coding rate come
back. -/
theorem restored_iff_values {m : RfmMetaData} (hlow : -2^31 ≤ m.spreadingFactor) (hhigh : m.spreadingFactor<2^31)
    (host : Host) (zone : ℤ → ℤ) (other : RfmMetaData) (payload : Bytes) :
    Restored host zone m other payload ↔
      UInt32.ofInt ((m.freq.toNat/10^6 : ℕ) : ℤ)*1000000=m.freq ∧ restoredRate m.codingRate=m.codingRate := by
  obtain ⟨lsnr,hdocument⟩ := document_toJsonString host.now zone m payload
  obtain ⟨restored,retSize,hparse,hfreq,hcodr,hrest⟩ := parseRX_rxValues hlow hhigh host zone other payload lsnr
  rw [←hfreq,←hcodr]
  constructor
  · rintro ⟨members,found,size,hmembers,hfound,hf,-,-,-,-,-,-,-,hc,-⟩
    rw [hdocument] at hmembers
    obtain rfl := Json.object.inj (Option.some.inj hmembers)
    rw [hparse] at hfound
    obtain ⟨rfl,-⟩ := Prod.mk.inj (Except.ok.inj hfound)
    exact ⟨hf,hc⟩
  · rintro ⟨hf,hc⟩
    obtain ⟨htmst,hchan,hrfch,hstat,hmodu,hfactor,hwidth,hrssi⟩ := hrest
    exact ⟨_,restored,retSize,hdocument,hparse,hf,htmst,hchan,hrfch,hstat,hmodu,hfactor,hwidth,hc,hrssi⟩

/-- A reception with one of the seven coding rates is restored exactly when its
frequency is in whole MHz and the coding rate is not 4/8. -/
theorem restored_iff {m : RfmMetaData} (hlow : -2^31 ≤ m.spreadingFactor) (hhigh : m.spreadingFactor<2^31)
    (hrate : m.codingRate≠.off) (host : Host) (zone : ℤ → ℤ) (other : RfmMetaData) (payload : Bytes) :
    Restored host zone m other payload ↔ m.freq.toNat%10^6=0 ∧ m.codingRate≠.cr48 := by
  rw [restored_iff_values hlow hhigh,freq_restored_iff,restoredRate_eq_iff hrate]

/-- At 868 MHz everything comes back. -/
theorem restored_wholeMHz :
    Restored referenceHost (fun _ => 3600) {RfmMetaData.initial 1700000000 5 with freq := 868000000}
      (RfmMetaData.initial 0 0) [1,2,3] :=
  (restored_iff (by decide) (by decide) (by decide) _ _ _ _).mpr ⟨by decide,by decide⟩

/-- At 868.1 MHz the frequency comes back as 868 MHz, and the coding rate 4/8 as
4/6. -/
theorem not_restored_channel :
    ¬ Restored referenceHost (fun _ => 0) {RfmMetaData.initial 0 0 with freq := 868100000} (RfmMetaData.initial 0 0) [] ∧
      ¬ Restored referenceHost (fun _ => 0) {RfmMetaData.initial 0 0 with freq := 868000000,codingRate := .cr48}
        (RfmMetaData.initial 0 0) [] := by
  rw [restored_iff_values (by decide) (by decide),restored_iff_values (by decide) (by decide)]
  decide

end LorawanServer.ReceptionText
