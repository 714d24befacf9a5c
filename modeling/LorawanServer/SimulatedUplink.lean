import LorawanServer.DatagramSafety
import LorawanServer.FrameRoundTrip

/-!
# Uplinks of the simulator and the datagram reader

`SemtechUDPPacket::mkPushDataPacket` writes a whole PUSH_DATA: prefix, JSON
text with the reception, base64 and an enciphered frame. The text is read back
by every JSON parser that agrees with the reference reader, the frame is
accepted, and its counter and gateway are restored. The payload is restored
only for equal session keys: the writer enciphers port 1 with the network key.
-/

namespace LorawanServer.SimulatedUplink

open CppRuntime Keystream FrameCrypto Records DataFrame FrameBuilders FrameRoundTrip JsonDocument Base64
  Datagram DatagramSafety

/-- An integer written to a stream. -/
def intText (value : ℤ) : Bytes := if value<0 then 45::decimal value.natAbs else decimal value.natAbs

/-- The two digits of a number below one hundred. -/
def twoDigits (value : ℕ) : Bytes := [UInt8.ofNat (48+value/10%10),UInt8.ofNat (48+value%10)]

/-- Year, month and day of a day since the first of January 1970. -/
def civilDate (days : ℕ) : ℕ×ℕ×ℕ :=
  let z := days+719468
  let era := z/146097
  let doe := z%146097
  let yoe := (doe-doe/1460+doe/36524-doe/146096)/365
  let doy := doe-(365*yoe+yoe/4-yoe/100)
  let mp := (5*doy+2)/153
  let month := if mp<10 then mp+3 else mp-9
  (yoe+era*400+if month≤2 then 1 else 0,month,doy-(153*mp+2)/5+1)

/-- `gtimeString` with the format `%FT%T`; time zero stands for the clock. -/
def gtimeString (now value : ℕ) : Bytes :=
  let value := if value=0 then now else value
  let date := civilDate (value/86400)
  let second := value%86400
  decimal date.1++45::twoDigits date.2.1++45::twoDigits date.2.2++
    84::twoDigits (second/3600)++58::twoDigits (second/60%60)++58::twoDigits (second%60)

example : gtimeString 0 1700000000=ascii "2023-11-14T22:13:20" := by decide +kernel

/-- Digits without their trailing zeros. -/
def trimZeros (digits : Bytes) : Bytes := (digits.reverse.dropWhile (· = 48)).reverse

/-- Nearest integer, halves to the even one. -/
def roundEven (value : ℚ) : ℕ :=
  let low := ⌊value⌋₊
  if value-low<1/2 then low else if 1/2<value-low then low+1 else low+low%2

/-- Digits of a number, filled up with zeros in front. -/
def padded (width value : ℕ) : Bytes :=
  List.replicate (width-(decimal value).length) 48++decimal value

/-- A fraction behind its point, or nothing. -/
def pointed (fraction : Bytes) : Bytes := if fraction=[] then [] else 46::fraction

/-- A `float` written to a stream with the default precision of six digits. -/
def floatText (value : ℚ) : Bytes :=
  if value=0 then [48]
  else
    let sign : Bytes := if value<0 then [45] else []
    let size := abs value
    let exponent := Int.log 10 size
    let digits := roundEven (size*10^(5-exponent))
    let (exponent,digits) := if digits=10^6 then (exponent+1,10^5) else (exponent,digits)
    sign++
      if 0≤exponent ∧ exponent<6 then
        let unit := 10^(5-exponent).toNat
        decimal (digits/unit)++pointed (trimZeros (padded (5-exponent).toNat (digits%unit)))
      else if -4≤exponent ∧ exponent<0 then
        48::46::(List.replicate (-exponent-1).toNat 48++trimZeros (decimal digits))
      else
        decimal (digits/10^5)++pointed (trimZeros (padded 5 (digits%10^5)))++
          101::(if exponent<0 then 45 else 43)::padded 2 exponent.natAbs

example : floatText (51/10)=ascii "5.1" := by decide +kernel

/-- `rfmMetaData::frequency`: whole MHz, a point and the rest in Hz. -/
def frequency (m : RfmMetaData) : Bytes :=
  let mhz := m.freq.toNat/1000000
  decimal mhz++46::decimal (m.freq.toNat-mhz*1000000)

/-- `rfmMetaData::modulation`. -/
def modulation (m : RfmMetaData) : Bytes :=
  match m.modu with
  | .fsk => ascii "FSK"
  | .lora => ascii "LORA"

/-- Bandwidth in kHz as `rfmMetaData::datr` writes it. -/
def bandwithValue : Bandwidth → ℕ
  | .khz7 => 7
  | .khz10 => 10
  | .khz15 => 15
  | .khz20 => 20
  | .khz31 => 31
  | .khz41 => 41
  | .khz62 => 62
  | .khz125 => 125
  | .khz250 => 250
  | .khz500 => 500

/-- `rfmMetaData::datr`. -/
def datr (m : RfmMetaData) : Bytes :=
  ascii "SF"++intText m.spreadingFactor++ascii "BW"++decimal (bandwithValue m.bandwith)

/-- `rfmMetaData::codr`. -/
def codr (m : RfmMetaData) : Bytes :=
  match m.codingRate with
  | .off => []
  | .cr45 => ascii "4/5"
  | .cr46 => ascii "2/3"
  | .cr47 => ascii "4/7"
  | .cr48 => ascii "1/2"
  | .li45 => ascii "4/5LI"
  | .li46 => ascii "4/6LI"
  | .li48 => ascii "4/8LI"

/-- The JSON text of `toRxJsonString` for one reception. -/
def rxJsonText (m : RfmMetaData) (dt payloadString : Bytes) : Bytes :=
  ascii "\x7b\"rxpk\": [\x7b"++
  ascii "\"time\": \""++dt++
  ascii "\", \"tmst\": "++decimal 0++
  ascii ", \"freq\": "++frequency m++
  ascii ", \"chan\": "++decimal m.chan.toNat++
  ascii ", \"rfch\": "++decimal m.rfch.toNat++
  ascii ", \"stat\": "++intText m.stat.toInt++
  ascii ", \"modu\": \""++modulation m++
  ascii "\", \"datr\": \""++datr m++
  ascii "\", \"codr\": \""++codr m++
  ascii "\", \"rssi\": "++intText m.rssi.toInt++
  ascii ", \"lsnr\": "++floatText m.lsnr++
  ascii ", \"size\": "++decimal payloadString.length++
  ascii ", \"data\": \""++base64Encode payloadString++
  ascii "\"\x7d]\x7d"

/-- `SemtechUDPPacket::toRxJsonString`; a packet without metadata gives the
empty string. -/
def toRxJsonString (now : ℕ) (packet : SemtechUDPPacket) (payloadString : Bytes) (receivedTime : UInt32) :
    Bytes :=
  match packet.metadata with
  | [] => []
  | m::_ => {packet.gwPrefix with tag := 0}.toBytes++
      rxJsonText m (gtimeString now receivedTime.toNat) payloadString

/-- `SemtechUDPPacket::mkPushDataPacket`: the packet object and the datagram,
which is an uplink on the right and a downlink on the left. -/
def mkPushDataPacket (host : Host) (crypto : Crypto) (packet : SemtechUDPPacket) (typ : ℕ) (payload : Bytes)
    (networkIdentity : NetworkIdentity) (time : UInt32) (fCnt : ℤ) (gwIdentifier : UInt64) (power : ℤ) :
    Except Fault (SemtechUDPPacket×(Option PullResp⊕Bytes)) := do
  let rfmMD ← setDatr (RfmMetaData.initial host.now host.tmst) (ascii "SF7BW125")
  let packet := {packet with
    header := {packet.header with
      fport := 0
      header := {packet.header.header with devaddr := networkIdentity.devaddr}}
    devId := networkIdentity.toDeviceId
    gwPrefix := {packet.gwPrefix with mac := UInt64.ofNat (swapBytes 8 gwIdentifier.toNat)}
    metadata := packet.metadata++[rfmMD]}
  let frame := pushDataFrame crypto packet.header.header.macheader typ payload networkIdentity (UInt16.ofInt fCnt)
  if mtype (setMtype packet.header.header.macheader typ)%2≠0 then
    return (packet,.inl (toTxJsonString packet frame time power))
  else return (packet,.inr (toRxJsonString host.now.toNat packet frame time))

/-- Numbers are plain text. -/
theorem isPlain_decimal (value : ℕ) : ∀ byte∈decimal value,isPlain byte=true := fun byte hb =>
  isPlain_of_isDigit ((isNumeral_decimal value).all_digits byte hb)

/-- So are two digits. -/
theorem isPlain_twoDigits (value : ℕ) : ∀ byte∈twoDigits value,isPlain byte=true := by
  intro byte hb
  simp only [twoDigits,List.mem_cons,List.not_mem_nil,or_false] at hb
  rcases hb with rfl|rfl
  · exact isPlain_of_isDigit (isDigit_ofNat (by omega))
  · exact isPlain_of_isDigit (isDigit_ofNat (by omega))

/-- So is a time stamp. -/
theorem isPlain_gtimeString (now value : ℕ) : ∀ byte∈gtimeString now value,isPlain byte=true := by
  simp only [gtimeString,List.forall_mem_append,List.forall_mem_cons]
  exact ⟨⟨⟨⟨⟨isPlain_decimal _,rfl,isPlain_twoDigits _⟩,rfl,isPlain_twoDigits _⟩,rfl,isPlain_twoDigits _⟩,
    rfl,isPlain_twoDigits _⟩,rfl,isPlain_twoDigits _⟩

/-- So is an encoded frame. -/
theorem isPlain_base64Encode (data : Bytes) : ∀ byte∈base64Encode data,isPlain byte=true := by
  intro byte hb
  have hletters : ∀ position<64,isPlain (letter position)=true := by decide +kernel
  rcases mem_base64Encode data byte hb with rfl|⟨position,hp,rfl⟩
  · rfl
  · exact hletters position hp

/-- The reception that the simulator invents: the defaults at SF7BW125. -/
def pushReception (t : ℤ) (tmst : UInt32) : RfmMetaData :=
  {RfmMetaData.initial t tmst with spreadingFactor := 7,bandwith := .khz125}

/-- The data rate of the simulator is read. -/
theorem setDatr_push (t : ℤ) (tmst : UInt32) :
    setDatr (RfmMetaData.initial t tmst) (ascii "SF7BW125")=.ok (pushReception t tmst) := rfl

/-- Names and texts of the members that the simulator writes. -/
def pushTexts (dt frame : Bytes) : List (Bytes×Bytes) :=
  [(ascii "time",quoted dt),(ascii "tmst",decimal 0),(ascii "freq",decimal 868++46::decimal 900000),
    (ascii "chan",decimal 0),(ascii "rfch",decimal 0),(ascii "stat",decimal 0),
    (ascii "modu",quoted (ascii "LORA")),(ascii "datr",quoted (ascii "SF7BW125")),
    (ascii "codr",quoted (ascii "2/3")),(ascii "rssi",45::decimal 35),(ascii "lsnr",decimal 5++46::decimal 1),
    (ascii "size",decimal frame.length),(ascii "data",quoted (base64Encode frame))]

/-- The values of these members. -/
def pushMembers (dt frame : Bytes) : Members :=
  [(ascii "time",.string dt),(ascii "tmst",.int 0),
    (ascii "freq",.double ((868 : ℕ)+(900000 : ℕ)/10^(decimal 900000).length)),
    (ascii "chan",.int 0),(ascii "rfch",.int 0),(ascii "stat",.int 0),(ascii "modu",.string (ascii "LORA")),
    (ascii "datr",.string (ascii "SF7BW125")),(ascii "codr",.string (ascii "2/3")),(ascii "rssi",.int (-35)),
    (ascii "lsnr",.double ((5 : ℕ)+(1 : ℕ)/10^(decimal 1).length)),(ascii "size",.int frame.length),
    (ascii "data",.string (base64Encode frame))]

/-- The pieces of the text, whatever their content, are an object with one
array of one object. -/
theorem rxText_layout (dt tmst freq chan rfch stat modu datr codr rssi lsnr size data : Bytes) :
    ascii "\x7b\"rxpk\": [\x7b"++ascii "\"time\": \""++dt++ascii "\", \"tmst\": "++tmst++
      ascii ", \"freq\": "++freq++ascii ", \"chan\": "++chan++ascii ", \"rfch\": "++rfch++
      ascii ", \"stat\": "++stat++ascii ", \"modu\": \""++modu++ascii "\", \"datr\": \""++datr++
      ascii "\", \"codr\": \""++codr++ascii "\", \"rssi\": "++rssi++ascii ", \"lsnr\": "++lsnr++
      ascii ", \"size\": "++size++ascii ", \"data\": \""++data++ascii "\"\x7d]\x7d"=
    objectText [(ascii "rxpk",arrayText [objectText [(ascii "time",quoted dt),(ascii "tmst",tmst),
      (ascii "freq",freq),(ascii "chan",chan),(ascii "rfch",rfch),(ascii "stat",stat),
      (ascii "modu",quoted modu),(ascii "datr",quoted datr),(ascii "codr",quoted codr),(ascii "rssi",rssi),
      (ascii "lsnr",lsnr),(ascii "size",size),(ascii "data",quoted data)]])] := by
  simp only [objectText,arrayText,List.map_cons,List.map_nil,joined,memberText,quoted,
    List.append_assoc,List.cons_append,List.nil_append]
  rfl

/-- Names and texts of the members that `toRxJsonString` writes. -/
def rxTexts (m : RfmMetaData) (dt payloadString : Bytes) : List (Bytes×Bytes) :=
  [(ascii "time",quoted dt),(ascii "tmst",decimal 0),(ascii "freq",frequency m),
    (ascii "chan",decimal m.chan.toNat),(ascii "rfch",decimal m.rfch.toNat),
    (ascii "stat",intText m.stat.toInt),(ascii "modu",quoted (modulation m)),(ascii "datr",quoted (datr m)),
    (ascii "codr",quoted (codr m)),(ascii "rssi",intText m.rssi.toInt),(ascii "lsnr",floatText m.lsnr),
    (ascii "size",decimal payloadString.length),(ascii "data",quoted (base64Encode payloadString))]

/-- The text of any reception is the object of its members. -/
theorem rxJsonText_eq (m : RfmMetaData) (dt payloadString : Bytes) :
    rxJsonText m dt payloadString=
      objectText [(ascii "rxpk",arrayText [objectText (rxTexts m dt payloadString)])] :=
  rxText_layout dt (decimal 0) (frequency m) (decimal m.chan.toNat) (decimal m.rfch.toNat)
    (intText m.stat.toInt) (modulation m) (datr m) (codr m) (intText m.rssi.toInt) (floatText m.lsnr)
    (decimal payloadString.length) (base64Encode payloadString)

/-- The members of the simulator, number by number. -/
theorem rxTexts_push (t : ℤ) (tmst : UInt32) (dt frame : Bytes) :
    rxTexts (pushReception t tmst) dt frame=pushTexts dt frame := by
  have hfreq : frequency (pushReception t tmst)=decimal 868++46::decimal 900000 := by
    have hv : (pushReception t tmst).freq.toNat=868900000 := rfl
    simp only [frequency,hv,Nat.reduceDiv,Nat.reduceMul,Nat.reduceSub]
  have hdatr : datr (pushReception t tmst)=ascii "SF7BW125" := by
    have he : datr (pushReception t tmst)=ascii "SF"++intText 7++ascii "BW"++decimal 125 := rfl
    rw [he]
    decide +kernel
  have hlsnr : floatText (pushReception t tmst).lsnr=decimal 5++46::decimal 1 := by
    have he : (pushReception t tmst).lsnr=51/10 := rfl
    rw [he]
    decide +kernel
  have hrssi : intText (pushReception t tmst).rssi.toInt=45::decimal 35 := by
    have he : (pushReception t tmst).rssi.toInt= -35 := rfl
    rw [he]
    decide +kernel
  have hstat : intText (pushReception t tmst).stat.toInt=decimal 0 := by
    have he : (pushReception t tmst).stat.toInt=0 := rfl
    rw [he]
    decide +kernel
  have hmodu : modulation (pushReception t tmst)=ascii "LORA" := rfl
  have hcodr : codr (pushReception t tmst)=ascii "2/3" := rfl
  have hchan : decimal (pushReception t tmst).chan.toNat=decimal 0 := rfl
  have hrfch : decimal (pushReception t tmst).rfch.toNat=decimal 0 := rfl
  simp only [rxTexts,hfreq,hdatr,hlsnr,hrssi,hstat,hmodu,hcodr,hchan,hrfch,pushTexts]

/-- Every member that the simulator writes reads as its value. -/
theorem membersRead_push {dt frame : Bytes} (hdt : ∀ byte∈dt,isPlain byte=true) (hf : frame.length<2^63) :
    MembersRead (pushTexts dt frame) (pushMembers dt frame) := by
  have hname : ∀ name : String,(ascii name).all isPlain=true → ∀ byte∈ascii name,isPlain byte=true :=
    fun name h => List.all_eq_true.mp h
  have hzero : Reads (decimal 0) (.int 0) := reads_decimal (by decide)
  have hrssi : Reads (45::decimal 35) (.int (-35)) := by
    have hd := digitsValue_decimal 35
    have hr := reads_neg (isNumeral_decimal 35) (by rw [hd]; decide) (by rw [hd]; decide)
    rwa [hd] at hr
  refine .cons ⟨rfl,hname _ (by decide),reads_string hdt⟩ (.cons ⟨rfl,hname _ (by decide),hzero⟩
    (.cons ⟨rfl,hname _ (by decide),reads_decimal_fraction 868 900000⟩ (.cons ⟨rfl,hname _ (by decide),hzero⟩
    (.cons ⟨rfl,hname _ (by decide),hzero⟩ (.cons ⟨rfl,hname _ (by decide),hzero⟩
    (.cons ⟨rfl,hname _ (by decide),reads_string (hname _ (by decide))⟩
    (.cons ⟨rfl,hname _ (by decide),reads_string (hname _ (by decide))⟩
    (.cons ⟨rfl,hname _ (by decide),reads_string (hname _ (by decide))⟩
    (.cons ⟨rfl,hname _ (by decide),hrssi⟩ (.cons ⟨rfl,hname _ (by decide),reads_decimal_fraction 5 1⟩
    (.cons ⟨rfl,hname _ (by decide),reads_decimal hf⟩
    (.cons ⟨rfl,hname _ (by decide),reads_string (isPlain_base64Encode frame)⟩ .nil))))))))))))

/-- The document of the simulator. -/
def pushDocument (dt frame : Bytes) : Members := [(ascii "rxpk",.array [.object (pushMembers dt frame)])]

/-- The text of the simulator reads as its document. -/
theorem read_push {dt frame : Bytes} (hdt : ∀ byte∈dt,isPlain byte=true) (hf : frame.length<2^63)
    (t : ℤ) (tmst : UInt32) :
    read (rxJsonText (pushReception t tmst) dt frame)=some (.object (pushDocument dt frame)) := by
  have hinner := reads_object (membersRead_push hdt hf) (List.cons_ne_nil _ _)
  have harray : Reads (arrayText [objectText (pushTexts dt frame)])
      (.array [.object (pushMembers dt frame)]) := reads_singleton hinner rfl (by decide)
  have hname : ∀ byte∈ascii "rxpk",isPlain byte=true := List.all_eq_true.mp (by decide)
  have houter : MembersRead [(ascii "rxpk",arrayText [objectText (pushTexts dt frame)])]
      (pushDocument dt frame) := .cons ⟨rfl,hname,harray⟩ .nil
  rw [rxJsonText_eq,rxTexts_push]
  exact read_of_reads (reads_object houter (List.cons_ne_nil _ _))

/-- A number has no zero byte. -/
theorem zero_notMem_decimal (value : ℕ) : 0∉decimal value := zero_notMem_of_plain (isPlain_decimal value)

/-- Nor has a number with a fraction. -/
theorem zero_notMem_pointed (whole fraction : ℕ) : 0∉decimal whole++46::decimal fraction := by
  simp only [List.mem_append,List.mem_cons,zero_notMem_decimal,or_false,false_or]
  decide

/-- Names and texts of the simulator have no zero byte. -/
theorem zero_notMem_pushTexts {dt : Bytes} (hdt : ∀ byte∈dt,isPlain byte=true) (frame : Bytes) :
    ∀ member∈pushTexts dt frame,0∉member.1 ∧ 0∉member.2 := by
  have hquoted : ∀ text : Bytes,(∀ byte∈text,isPlain byte=true) → 0∉quoted text := fun text h =>
    zero_notMem_quoted (zero_notMem_of_plain h)
  have hminus : 0∉45::decimal 35 := by
    simp only [List.mem_cons,zero_notMem_decimal,or_false]
    decide
  intro member hm
  simp only [pushTexts,List.mem_cons,List.not_mem_nil,or_false] at hm
  rcases hm with rfl|rfl|rfl|rfl|rfl|rfl|rfl|rfl|rfl|rfl|rfl|rfl|rfl
  · exact ⟨(by decide : 0∉ascii "time"),hquoted dt hdt⟩
  · exact ⟨(by decide : 0∉ascii "tmst"),zero_notMem_decimal 0⟩
  · exact ⟨(by decide : 0∉ascii "freq"),zero_notMem_pointed 868 900000⟩
  · exact ⟨(by decide : 0∉ascii "chan"),zero_notMem_decimal 0⟩
  · exact ⟨(by decide : 0∉ascii "rfch"),zero_notMem_decimal 0⟩
  · exact ⟨(by decide : 0∉ascii "stat"),zero_notMem_decimal 0⟩
  · exact ⟨(by decide : 0∉ascii "modu"),(by decide : 0∉quoted (ascii "LORA"))⟩
  · exact ⟨(by decide : 0∉ascii "datr"),(by decide : 0∉quoted (ascii "SF7BW125"))⟩
  · exact ⟨(by decide : 0∉ascii "codr"),(by decide : 0∉quoted (ascii "2/3"))⟩
  · exact ⟨(by decide : 0∉ascii "rssi"),hminus⟩
  · exact ⟨(by decide : 0∉ascii "lsnr"),zero_notMem_pointed 5 1⟩
  · exact ⟨(by decide : 0∉ascii "size"),zero_notMem_decimal frame.length⟩
  · exact ⟨(by decide : 0∉ascii "data"),hquoted _ (isPlain_base64Encode frame)⟩

/-- The text of the simulator has no zero byte. -/
theorem zero_notMem_push {dt frame : Bytes} (hdt : ∀ byte∈dt,isPlain byte=true) (t : ℤ) (tmst : UInt32) :
    0∉rxJsonText (pushReception t tmst) dt frame := by
  rw [rxJsonText_eq,rxTexts_push]
  refine zero_notMem_objectText fun member hm => ?_
  rw [List.mem_singleton.mp hm]
  refine ⟨(by decide : 0∉ascii "rxpk"),zero_notMem_arrayText fun item hi => ?_⟩
  rw [List.mem_singleton.mp hi]
  exact zero_notMem_objectText (zero_notMem_pushTexts hdt frame)

/-- The frame of the simulator is sealed as an uplink with the network key. -/
theorem pushDataFrame_eq (crypto : Crypto) (payload : Bytes) (nid : NetworkIdentity) (fCnt : UInt16) :
    pushDataFrame crypto 0x40 MTYPE_UNCONFIRMED_DATA_UP payload nid fCnt=
      sealFrame crypto ⟨0x40,nid.devaddr,0,fCnt⟩
        (1::encryptPayload crypto payload fCnt.toNat 0 nid.devaddr nid.nwkSKey) 0 nid.nwkSKey := by
  have hm : setMtype 0x40 MTYPE_UNCONFIRMED_DATA_UP=0x40 := by decide
  have hd : UInt8.ofNat (mtype 0x40%2)=0 := by decide
  dsimp only [pushDataFrame]
  rw [hm,hd]

/-- The frame member of the simulator decodes to the frame. -/
theorem parseFrame_push (dt frame : Bytes) : parseFrame (pushMembers dt frame)=frame := by
  have hs : getMember (pushMembers dt frame) "data" Json.string?=some (cString (base64Encode frame)) := rfl
  rw [parseFrame,hs,cString_eq_self (zero_notMem_of_plain (isPlain_base64Encode frame))]
  dsimp only
  rw [base64Decode_base64Encode,Option.getD_some]

/-- The object of the simulator gives the packet of its frame. -/
theorem receivedRX_push (host : Host) (crypto : Crypto) (identityService : Option IdentityService)
    (gwPrefix : SemtechPrefixGw) (dt frame : Bytes) :
    ∃ m,receivedRX host crypto identityService gwPrefix (pushMembers dt frame)=
      received crypto identityService gwPrefix m frame := by
  have hd : ∀ m,parseDatr (pushMembers dt frame) m=
      .ok {m with spreadingFactor := 7,bandwith := .khz125} := fun m => rfl
  unfold receivedRX parseRX
  simp only [hd,parseFrame_push]
  exact ⟨_,rfl⟩

/-- A sealed frame without options gives a packet with its header, the prefix
and the payload deciphered with the application key. -/
theorem received_sealed (crypto : Crypto) {identityService : Option IdentityService} {header : PackedRfmHeader}
    (hm : 2 ≤ mtype header.macheader) (hz : header.fctrl=0) {frmPayload : Bytes} (hpos : 1≤frmPayload.length)
    (hl : frmPayload.length≤242) {id : DeviceId} (hg : lookup identityService header.devaddr=some id)
    (gwPrefix : SemtechPrefixGw) (m : RfmMetaData) :
    ∃ packet,received crypto identityService gwPrefix m
        (sealFrame crypto header (1::frmPayload) 0 id.nwkSKey)=.ok packet ∧ packet.errcode=LORA_OK ∧
      packet.header.header=header ∧ packet.gwPrefix=gwPrefix ∧
      packet.payload=decryptPayload crypto frmPayload header.fcnt.toNat 0 header.devaddr id.appSKey := by
  have hlen : (1::frmPayload).length≤247 := by rw [List.length_cons]; omega
  have hopts : foptslen header.fctrl=0 := by rw [hz]; rfl
  have hok := parseData_sealFrame hm hlen crypto hg (newPacket gwPrefix m)
  have hd : direction (newPacket gwPrefix m).downlink=0 := rfl
  have hp := accepted_payload crypto header (1::frmPayload) 0 id.nwkSKey (newPacket gwPrefix m) id hlen
    (by rw [List.length_cons,hopts]; omega)
  rw [hd] at hok hp
  rw [hopts] at hp
  unfold received
  rw [hok]
  exact ⟨_,rfl,rfl,accepted_header _ _ _ _ _ _ _,rfl,hp⟩

/-- What the simulator writes for an unconfirmed uplink from a fresh packet. -/
theorem mkPushDataPacket_eq (host : Host) (crypto : Crypto) (payload : Bytes) (nid : NetworkIdentity)
    (time : UInt32) (fCnt : UInt16) (gw : UInt64) (power : ℤ) :
    ∃ packet,mkPushDataPacket host crypto SemtechUDPPacket.empty MTYPE_UNCONFIRMED_DATA_UP payload nid time
        (fCnt.toNat : ℤ) gw power=.ok (packet,.inr (
          (⟨2,0,0,UInt64.ofNat (swapBytes 8 gw.toNat)⟩ : SemtechPrefixGw).toBytes++
          rxJsonText (pushReception host.now host.tmst) (gtimeString host.now.toNat time.toNat)
            (pushDataFrame crypto 0x40 MTYPE_UNCONFIRMED_DATA_UP payload nid fCnt))) := by
  have hcnt : UInt16.ofInt (fCnt.toNat : ℤ)=fCnt := by
    rw [uint16_ofInt_natCast,UInt16.ofNat_toNat]
  have hdir : ¬ mtype (setMtype 0x40 MTYPE_UNCONFIRMED_DATA_UP)%2≠0 := by decide
  unfold mkPushDataPacket
  rw [setDatr_push,hcnt]
  dsimp only [bind,Except.bind,SemtechUDPPacket.empty]
  rw [if_neg hdir]
  exact ⟨_,rfl⟩

/-- The parser agrees with the reference reader wherever that one answers. -/
def ReadsJson (parser : Bytes → Option Json) : Prop := ∀ text value,read text=some value → parser text=some value

/-- The document of the simulator is read as one accepted packet. -/
theorem parse_push {reader : Host} (hjson : ReadsJson reader.parseJson) (crypto : Crypto)
    (identityService : Option IdentityService) (retPrefix : SemtechPrefixGw) (retGWStat : GatewayStat)
    (mac : DEVEUI) (t : ℤ) (tmst : UInt32) {dt frame : Bytes} (hdt : ∀ byte∈dt,isPlain byte=true)
    (hf : frame.length<2^63) :
    ∃ m,∀ packet,received crypto identityService (swapMac ⟨2,0,0,mac⟩) m frame=.ok packet →
      packet.errcode=LORA_OK →
      parse reader crypto identityService retPrefix retGWStat
        ((⟨2,0,0,mac⟩ : SemtechPrefixGw).toBytes++rxJsonText (pushReception t tmst) dt frame)=
        .ok ⟨swapMac ⟨2,0,0,mac⟩,{retGWStat with errcode := ERR_CODE_NO_GATEWAY_STAT},[packet],LORA_OK⟩ := by
  obtain ⟨m,hm⟩ := receivedRX_push reader crypto identityService (swapMac ⟨2,0,0,mac⟩) dt frame
  refine ⟨m,fun packet hp he => ?_⟩
  rw [←hm] at hp
  have hj : reader.parseJson (cString (rxJsonText (pushReception t tmst) dt frame))=
      some (.object (pushDocument dt frame)) := by
    rw [cString_eq_self (zero_notMem_push hdt t tmst)]
    exact hjson _ _ (read_push hdt hf t tmst)
  have hne : rxJsonText (pushReception t tmst) dt frame≠[] := by
    rw [rxJsonText_eq]
    exact List.cons_ne_nil _ _
  have hreturned : isReturned packet=true := decide_eq_true (.inl he)
  have hstat : (pushDocument dt frame).lookup (ascii "stat")=none := rfl
  have hrxpk : (pushDocument dt frame).lookup (ascii "rxpk")=
      some (.array [.object (pushMembers dt frame)]) := rfl
  rw [parse_pushData reader crypto identityService rfl rfl hne hj]
  unfold parseDocument parsePackets
  rw [hstat,hrxpk]
  dsimp only
  rw [parseRxpk,hp]
  dsimp only [bind,Except.bind]
  rw [parseRxpk,he,hreturned]
  rfl

/-- A gateway identifier survives both changes of its byte order. -/
theorem swapMac_push (gw : UInt64) :
    (swapMac ⟨2,0,0,UInt64.ofNat (swapBytes 8 gw.toNat)⟩).mac=gw := by
  have hlt := swapBytes_lt 8 gw.toNat
  have hn : (UInt64.ofNat (swapBytes 8 gw.toNat)).toNat=swapBytes 8 gw.toNat := by
    rw [UInt64.toNat_ofNat']
    exact Nat.mod_eq_of_lt hlt
  dsimp only [swapMac]
  rw [hn,swapBytes_swapBytes gw.toNat_lt,UInt64.ofNat_toNat]

section Readable

variable {writer reader : Host} {payload : Bytes} (nid : NetworkIdentity) (time : UInt32) (fCnt : UInt16)
  (gw : UInt64) (power : ℤ)

variable (writer) in
/-- What the server makes of a simulated uplink: one accepted packet, whose
payload went through the network key and the application key. -/
theorem push_outcome (hjson : ReadsJson reader.parseJson) (hpos : 1≤payload.length)
    (hmax : payload.length≤242) (crypto : Crypto) {identityService : IdentityService}
    (hg : identityService.get nid.devaddr=.ok nid.toDeviceId) (retPrefix : SemtechPrefixGw)
    (retGWStat : GatewayStat) :
    ∃ packet datagram result received,
      mkPushDataPacket writer crypto SemtechUDPPacket.empty MTYPE_UNCONFIRMED_DATA_UP payload nid time
        (fCnt.toNat : ℤ) gw power=.ok (packet,.inr datagram) ∧
      parse reader crypto (some identityService) retPrefix retGWStat datagram=.ok result ∧
      result.code=LORA_OK ∧ result.retPackets=[received] ∧ received.header.header.fcnt=fCnt ∧
      received.gwPrefix.mac=gw ∧
      received.payload=decryptPayload crypto
        (encryptPayload crypto payload fCnt.toNat 0 nid.devaddr nid.nwkSKey) fCnt.toNat 0 nid.devaddr
        nid.appSKey := by
  have henc := encryptPayload_length crypto (by omega : payload.length≤256) fCnt.toNat 0 nid.devaddr nid.nwkSKey
  have hlookup : lookup (some identityService) nid.devaddr=some nid.toDeviceId := by
    rw [lookup,hg]
    rfl
  have hframe := pushDataFrame_eq crypto payload nid fCnt
  obtain ⟨packet,hmk⟩ := mkPushDataPacket_eq writer crypto payload nid time fCnt gw power
  have hlen : (pushDataFrame crypto 0x40 MTYPE_UNCONFIRMED_DATA_UP payload nid fCnt).length<2^63 := by
    rw [hframe,sealFrame_length,List.length_cons,henc]
    omega
  obtain ⟨m,hparse⟩ := parse_push hjson crypto (some identityService) retPrefix retGWStat
    (UInt64.ofNat (swapBytes 8 gw.toNat)) writer.now writer.tmst
    (isPlain_gtimeString writer.now.toNat time.toNat) hlen
  have hm : 2 ≤ mtype (⟨0x40,nid.devaddr,0,fCnt⟩ : PackedRfmHeader).macheader :=
    (by decide : 2 ≤ mtype 0x40)
  obtain ⟨accepted,hr,he,hheader,hgw,hpayload⟩ := received_sealed crypto hm rfl
    (by rw [henc]; exact hpos) (by rw [henc]; exact hmax) hlookup
    (swapMac ⟨2,0,0,UInt64.ofNat (swapBytes 8 gw.toNat)⟩) m
  rw [hframe] at hmk hparse
  refine ⟨packet,_,_,accepted,hmk,hparse accepted hr he,rfl,rfl,by rw [hheader],?_,hpayload⟩
  rw [hgw,swapMac_push]

variable (writer reader payload) in
/-- A simulated uplink is readable: for all primitives and all services that
know the device, the server returns one packet with the payload, the counter
and the gateway of the simulator. -/
def UplinkReadable : Prop :=
  ∀ (crypto : Crypto) (identityService : IdentityService),
    identityService.get nid.devaddr=.ok nid.toDeviceId →
    ∀ (retPrefix : SemtechPrefixGw) (retGWStat : GatewayStat),∃ packet datagram result received,
      mkPushDataPacket writer crypto SemtechUDPPacket.empty MTYPE_UNCONFIRMED_DATA_UP payload nid time
        (fCnt.toNat : ℤ) gw power=.ok (packet,.inr datagram) ∧
      parse reader crypto (some identityService) retPrefix retGWStat datagram=.ok result ∧
      result.code=LORA_OK ∧ result.retPackets=[received] ∧ received.payload=payload ∧
      received.header.header.fcnt=fCnt ∧ received.gwPrefix.mac=gw

/-- Under primitives that tell two session keys apart the payload comes out
changed. -/
theorem unequal_keys_unreadable (hjson : ReadsJson reader.parseJson) (hpos : 1≤payload.length)
    (hmax : payload.length≤242) (hkey : nid.nwkSKey≠nid.appSKey) :
    ¬ UplinkReadable writer reader payload nid time fCnt gw power := by
  intro h
  let crypto := spotCrypto nid.nwkSKey (blockA fCnt.toNat 0 nid.devaddr 1) zeroKey []
  have hg : (constService nid.toDeviceId).get nid.devaddr=.ok nid.toDeviceId := rfl
  obtain ⟨packet,datagram,result,received,hmk,hparse,-,hone,hpay,-,-⟩ :=
    h crypto (constService nid.toDeviceId) hg ⟨0,0,0,0⟩ GatewayStat.empty
  obtain ⟨packet',datagram',result',received',hmk',hparse',-,hone',-,-,hpay'⟩ :=
    push_outcome writer nid time fCnt gw power hjson hpos hmax crypto hg ⟨0,0,0,0⟩ GatewayStat.empty
  rw [hmk] at hmk'
  have hdatagram : datagram=datagram' := Sum.inr.inj (congrArg Prod.snd (Except.ok.inj hmk'))
  rw [←hdatagram,hparse] at hparse'
  rw [←Except.ok.inj hparse',hone] at hone'
  rw [←(List.cons.inj hone').1,hpay] at hpay'
  have hz := (decrypt_encrypt_iff crypto (by omega) _ _ _ _ _ _).mp hpay'.symm 0 hpos
  rw [spot_stream,spot_stream_other fun hc => hkey hc.1.symm] at hz
  exact absurd hz (by decide)

/-- A simulated uplink is readable exactly when both session keys are equal. -/
theorem simulated_uplink_readable_iff (hjson : ReadsJson reader.parseJson) (hpos : 1≤payload.length)
    (hmax : payload.length≤242) :
    UplinkReadable writer reader payload nid time fCnt gw power ↔ nid.nwkSKey=nid.appSKey := by
  constructor
  · intro h
    by_contra hkey
    exact unequal_keys_unreadable nid time fCnt gw power hjson hpos hmax hkey h
  · intro hkey crypto identityService hg retPrefix retGWStat
    obtain ⟨packet,datagram,result,received,hmk,hparse,hcode,hone,hcnt,hmac,hpay⟩ :=
      push_outcome writer nid time fCnt gw power hjson hpos hmax crypto hg retPrefix retGWStat
    refine ⟨packet,datagram,result,received,hmk,hparse,hcode,hone,?_,hcnt,hmac⟩
    rw [hpay,hkey]
    exact (decrypt_encrypt_iff crypto (by omega) _ _ _ _ _ _).mpr fun _ _ => rfl

end Readable

/-- A one-byte uplink of a device with equal session keys is readable. -/
theorem simulated_uplink_equal_keys :
    ReadsJson referenceHost.parseJson ∧
      UplinkReadable referenceHost referenceHost [0x2a] ⟨DeviceId.empty,1⟩ 1700000000 7 0x0102030405060708 14 :=
  ⟨fun _ _ h => h,(simulated_uplink_readable_iff ⟨DeviceId.empty,1⟩ 1700000000 7 0x0102030405060708 14
    (fun _ _ h => h) (by decide) (by decide)).mpr rfl⟩

/-- The same uplink of a device with another application key is not. -/
theorem simulated_uplink_other_key :
    ¬ UplinkReadable referenceHost referenceHost [0x2a] ⟨{DeviceId.empty with appSKey := constBlock 1},1⟩
      1700000000 7 0x0102030405060708 14 :=
  unequal_keys_unreadable _ 1700000000 7 0x0102030405060708 14 (fun _ _ h => h) (by decide) (by decide)
    (by decide)

end LorawanServer.SimulatedUplink
