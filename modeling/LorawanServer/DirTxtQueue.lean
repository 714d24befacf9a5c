import LorawanServer.Base64
import LorawanServer.IdentityText
import LorawanServer.ReceiverQueue
import LorawanServer.SimulatedUplink

/-!
# The queue in a directory

`DirTxtReceiverQueueService`: a payload is a file, named by the second in which
it was written and by the last number given. The directory is a map from names
to contents in which all operations succeed; the order in which it is listed and
the times of its files are arguments.
-/

namespace LorawanServer.DirTxtQueue

open CppRuntime ReceiverQueue Base64 IdentityText
open PacketHandler (Timeval)
open Records (ERR_CODE_INVALID_PACKET)
open SimulatedUplink (intText)

/-- The text is no base64. -/
abbrev ERR_CODE_INVALID_BASE64 : ℤ := -568

/-- `DIRTXT_FORMAT`. -/
inductive DirtxtFormat where
  /-- The payload as it is. -/
  | bin
  /-- Hexadecimal digits. -/
  | hex
  /-- Base64. -/
  | base64
  deriving DecidableEq

/-- `dataFileExtensions`. -/
def dataFileExtensions : DirtxtFormat → Bytes
  | .bin => ascii ".bin"
  | .hex => ascii ".hex"
  | .base64 => ascii ".b64"

/-- The formats in the order in which they are looked for. -/
def formats : List DirtxtFormat := [.bin,.hex,.base64]

/-- How a directory is listed. -/
structure FileSystem where
  /-- Names of a directory in the order of its listing. -/
  listing : List Bytes → List Bytes
  /-- Every name is listed once. -/
  listing_perm : ∀ names,(listing names).Perm names
  /-- `fileModificationTime`. -/
  modificationTime : Bytes → ℤ

/-- The class `DirTxtReceiverQueueService`, with the files of its directory. -/
structure DirTxtReceiverQueueService where
  /-- Format of new files. -/
  writeFormat : DirtxtFormat
  /-- Last number given. -/
  cnt : ℤ
  /-- Databases. -/
  dbs : List ℤ
  /-- Names and contents of the files. -/
  files : List (Bytes×Bytes)

/-- The constructor, with an empty directory. -/
def DirTxtReceiverQueueService.new (writeFormat : DirtxtFormat) : DirTxtReceiverQueueService := ⟨writeFormat,0,[],[]⟩

/-- `filesInPath`: files whose name has the suffix anywhere. -/
def filesInPath (fs : FileSystem) (s : DirTxtReceiverQueueService) (suffix : Bytes) : List Bytes :=
  (fs.listing (s.files.map Prod.fst)).filter fun name => suffix<:+:name

/-- `file2string`; a file that is not there is empty. -/
def file2string (s : DirTxtReceiverQueueService) (name : Bytes) : Bytes :=
  ((s.files.find? fun file => file.1=name).map Prod.snd).getD []

/-- A payload with its code. -/
def checked (payload : Bytes) : Bytes×ℤ := (payload,if payload=[] then ERR_CODE_INVALID_PACKET else 0)

/-- `loadFile` of a content: the payload, which is the content where this is no
base64, and the code. -/
def loadFile (format : DirtxtFormat) (content : Bytes) : Bytes×ℤ :=
  match format with
  | .bin => checked content
  | .hex => checked (hex2string content)
  | .base64 =>
    match base64Decode content with
    | none => (content,ERR_CODE_INVALID_BASE64)
    | some payload => checked payload

/-- The content of a file for a payload. -/
def fileContent (format : DirtxtFormat) (payload : Bytes) : Bytes :=
  match format with
  | .bin => payload
  | .hex => hexString payload
  | .base64 => base64Encode payload

/-- The name of a file written at a second. -/
def fileName (t cnt : ℤ) (format : DirtxtFormat) : Bytes :=
  intText t++45::(intText cnt++dataFileExtensions format)

/-- `storeFile` at a second; a file of this name is overwritten. -/
def storeFile (s : DirTxtReceiverQueueService) (payload : Bytes) (format : DirtxtFormat) (t : ℤ) :
    DirTxtReceiverQueueService :=
  let name := fileName t s.cnt format
  {s with files := (s.files.filter fun file => file.1≠name)++[(name,fileContent format payload)]}

/-- `count`. -/
def count (fs : FileSystem) (s : DirTxtReceiverQueueService) : ℕ :=
  (formats.map fun format => (filesInPath fs s (dataFileExtensions format)).length).sum

/-- `clear`: every file that is listed is removed. -/
def clear (fs : FileSystem) (s : DirTxtReceiverQueueService) : DirTxtReceiverQueueService :=
  let names := formats.flatMap fun format => filesInPath fs s (dataFileExtensions format)
  {s with files := s.files.filter fun file => file.1∉names}

/-- `clearDbs`, whatever the databases are. -/
def clearDbs (fs : FileSystem) (s : DirTxtReceiverQueueService) (_dbs : List ℤ) : DirTxtReceiverQueueService :=
  clear fs s

/-- `setDbs` of the base class. -/
def setDbs (fs : FileSystem) (s : DirTxtReceiverQueueService) (values : List ℤ) : DirTxtReceiverQueueService :=
  {clearDbs fs s (s.dbs.filter fun dbId => dbId∉values) with dbs := values}

/-- `pushEntry` at a second. -/
def pushEntry (s : DirTxtReceiverQueueService) (value : ReceiverQueueEntry) (t : ℤ) : DirTxtReceiverQueueService :=
  storeFile s value.value.payload s.writeFormat t

/-- The loop of `pop` and `peek`: the first file of the first format whose first
file has a payload, with the payload that was loaded last. -/
def firstFile (fs : FileSystem) (s : DirTxtReceiverQueueService) (payload : Bytes) :
    List DirtxtFormat → Bytes×Option Bytes
  | [] => (payload,none)
  | format::rest =>
    match filesInPath fs s (dataFileExtensions format) with
    | [] => firstFile fs s payload rest
    | name::_ =>
      let (payload,code) := loadFile format (file2string s name)
      if code≠0 then firstFile fs s payload rest else (payload,some name)

/-- The time of a file as a key. -/
def fileKey (fs : FileSystem) (name : Bytes) : ReceiverQueueKey := ⟨⟨fs.modificationTime name,0⟩,0⟩

/-- `pop` into an entry of the caller, for any database. -/
def pop (fs : FileSystem) (s : DirTxtReceiverQueueService) (_dbid : ℤ) (retval : ReceiverQueueEntry) :
    DirTxtReceiverQueueService×ReceiverQueueEntry×ℤ :=
  let (payload,found) := firstFile fs s retval.value.payload formats
  let value := {retval.value with payload := payload}
  match found with
  | none => (s,⟨retval.key,value⟩,ERR_CODE_QUEUE_EMPTY)
  | some name => ({s with files := s.files.filter fun file => file.1≠name},⟨fileKey fs name,value⟩,0)

/-- `peek` into an entry of the caller, for any database. -/
def peek (fs : FileSystem) (s : DirTxtReceiverQueueService) (_dbid : ℤ) (retval : ReceiverQueueEntry) :
    ReceiverQueueEntry×ℤ :=
  let (payload,found) := firstFile fs s retval.value.payload formats
  let value := {retval.value with payload := payload}
  match found with
  | none => (⟨retval.key,value⟩,ERR_CODE_QUEUE_EMPTY)
  | some name => (⟨fileKey fs name,value⟩,0)

/-- The payload of a file, if it loads. -/
def payloadOf (s : DirTxtReceiverQueueService) (format : DirtxtFormat) (name : Bytes) : Option Bytes :=
  let (payload,code) := loadFile format (file2string s name)
  if code=0 then some payload else none

/-- The payloads of the directory. -/
def payloads (fs : FileSystem) (s : DirTxtReceiverQueueService) : Multiset Bytes :=
  (formats.flatMap fun format => (filesInPath fs s (dataFileExtensions format)).filterMap (payloadOf s format) :
    List Bytes)

/-- A payload reads back from its file. -/
theorem loadFile_fileContent (format : DirtxtFormat) {payload : Bytes} (h : payload≠[]) :
    loadFile format (fileContent format payload)=(payload,0) := by
  have hchecked : checked payload=(payload,0) := by rw [checked,if_neg h]
  cases format with
  | bin => exact hchecked
  | hex =>
    rw [fileContent,loadFile,hex2string_hexString]
    exact hchecked
  | base64 =>
    rw [fileContent,loadFile,base64Decode_base64Encode]
    exact hchecked

/-- Bytes of a number are no dots. -/
theorem dot_notMem_intText (value : ℤ) : 46∉intText value := by
  have hdecimal : ∀ magnitude : ℕ,46∉JsonDocument.decimal magnitude := fun magnitude hm =>
    absurd ((JsonDocument.isNumeral_decimal magnitude).all_digits 46 hm) (by decide)
  rw [intText]
  split
  · exact List.not_mem_cons_of_ne_of_not_mem (by decide) (hdecimal _)
  · exact hdecimal _

/-- Texts without dots in front of a dot can be told apart. -/
theorem append_dot_inj {first second behindFirst behindSecond : Bytes} (hf : 46∉first) (hs : 46∉second)
    (h : first++46::behindFirst=second++46::behindSecond) : first=second ∧ behindFirst=behindSecond := by
  have hfront : ∀ {front behind : Bytes},46∉front → (front++46::behind).takeWhile (fun byte => byte≠46)=front := by
    intro front behind hnot
    have hall : ∀ byte∈front,decide (byte≠46)=true := fun byte hb => decide_eq_true (ne_of_mem_of_not_mem hb hnot)
    rw [List.takeWhile_append_of_pos hall,List.takeWhile_cons_of_neg (by decide),List.append_nil]
  obtain rfl : first=second := by rw [← hfront hf,h,hfront hs]
  exact ⟨rfl,(List.cons.inj (List.append_cancel_left h)).2⟩

/-- A name has the suffix of its own format only. -/
theorem suffix_iff (t cnt : ℤ) (format other : DirtxtFormat) :
    dataFileExtensions other<:+:fileName t cnt format ↔ other=format := by
  constructor
  · rintro ⟨before,behind,h⟩
    have hfront : 46∉intText t++45::intText cnt := by
      rw [List.mem_append,not_or]
      exact ⟨dot_notMem_intText t,List.not_mem_cons_of_ne_of_not_mem (by decide) (dot_notMem_intText cnt)⟩
    obtain ⟨rest,hrest,hdot⟩ : ∃ rest,dataFileExtensions format=46::rest ∧ 46∉rest := by
      cases format <;> exact ⟨_,rfl,by decide⟩
    obtain ⟨rest',hrest'⟩ : ∃ rest,dataFileExtensions other=46::rest := by cases other <;> exact ⟨_,rfl⟩
    have hname : fileName t cnt format=(intText t++45::intText cnt)++46::rest := by
      rw [fileName,hrest,List.append_assoc,List.cons_append]
    rw [hname,hrest',List.append_assoc,List.cons_append] at h
    have hbefore : 46∉before := by
      -- the name has one dot
      have hcount := congrArg (List.count 46) h
      rw [List.count_append,List.count_append,List.count_cons_self,List.count_cons_self,
        List.count_eq_zero_of_not_mem hfront,List.count_eq_zero_of_not_mem hdot] at hcount
      exact List.count_eq_zero.mp (by omega)
    obtain ⟨-,hext⟩ := append_dot_inj hbefore hfront h
    have hlength : ∀ kind,(dataFileExtensions kind).length=4 := by
      intro kind
      cases kind <;> rfl
    have hnil : behind=[] := by
      have hfour := hlength format
      have hfour' := hlength other
      rw [hrest,List.length_cons,← hext,List.length_append] at hfour
      rw [hrest',List.length_cons] at hfour'
      exact List.eq_nil_of_length_eq_zero (by omega)
    rw [hnil,List.append_nil] at hext
    rw [← hext,← hrest'] at hrest
    revert hrest
    cases other <;> cases format <;> decide
  · rintro rfl
    exact ⟨intText t++45::intText cnt,[],by rw [fileName,List.append_nil,List.append_assoc,List.cons_append]⟩

end LorawanServer.DirTxtQueue
