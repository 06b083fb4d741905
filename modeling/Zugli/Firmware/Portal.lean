import Zugli.Firmware.Httpd
import Zugli.Lib.Buffer

/-!
# The captive portal

The DNS server that answers every query with the address of the portal, and the list of networks
for the setup page. Indexing and slicing outside of a buffer stop the task, which is a turn without
a result.
-/

namespace Zugli

/-- `AP_IP`. -/
def apIp : List UInt8 := [192, 168, 4, 1]

/-- `DNS_ANSWER_TTL_SECS`. -/
def dnsAnswerTtlSecs : UInt32 := 60

/-- `u32::to_be_bytes`. -/
def u32ToBigEndian (value : UInt32) : List UInt8 :=
  [(value >>> 24).toUInt8, (value >>> 16).toUInt8, (value >>> 8).toUInt8, value.toUInt8]

/-- The buffers of `dns_task`. -/
structure DnsTask where
  /-- `query`. -/
  query : Buffer 512
  /-- `resp`. -/
  resp : Buffer 512

namespace DnsTask

/-- `dns_task` as it starts. -/
def start : DnsTask := ⟨.zeros, .zeros⟩

/-- The first index from `i` on, below `n`, of a zero byte, or `n`. -/
def findZero (query : Buffer 512) (n i : Nat) : Option Nat :=
  if i < n then do
    let byte ← query.get i
    if byte ≠ 0 then findZero query n (i + 1) else some i
  else some i
termination_by n - i

/-- From a datagram of `n` bytes to the next await point, with what is sent. -/
def answer (task : DnsTask) (n : Nat) : Option (DnsTask × List (List UInt8)) :=
  if n < 12 then some (task, [])
  else do
    let query := task.query
    let i ← findZero query n 12
    let qend := i + 1 + 4
    if n < qend ∨ 512 < qend + 16 then some (task, [])
    else do
      let resp ← task.resp.set 0 (← query.get 0)
      let resp ← resp.set 1 (← query.get 1)
      let resp ← resp.set 2 0x81
      let resp ← resp.set 3 0x80
      let resp ← resp.copy 4 6 (← query.slice 4 6)
      let resp ← resp.copy 6 8 [0, 1]
      let resp ← resp.copy 8 12 [0, 0, 0, 0]
      let resp ← resp.copy 12 qend (← query.slice 12 qend)
      let p := qend
      let resp ← resp.copy p (p + 2) [0xC0, 0x0C]
      let resp ← resp.copy (p + 2) (p + 4) [0, 1]
      let resp ← resp.copy (p + 4) (p + 6) [0, 1]
      let resp ← resp.copy (p + 6) (p + 10) (u32ToBigEndian dnsAnswerTtlSecs)
      let resp ← resp.copy (p + 10) (p + 12) [0, 4]
      let resp ← resp.copy (p + 12) (p + 16) apIp
      let sent ← resp.slice 0 (p + 16)
      some ({ task with resp }, [sent])

/-- A turn of the loop; a datagram that does not fit the buffer is an error of `recv_from`. -/
def turn (task : DnsTask) (datagram : List UInt8) : Option (DnsTask × List (List UInt8)) :=
  match task.query.receive datagram with
  | none => some (task, [])
  | some query => { task with query }.answer datagram.length

end DnsTask

/-! ## The list of networks -/

/-- `NetInfo`, the fields of the list. -/
structure NetInfo where
  /-- `ssid`. -/
  ssid : HString 32
  /-- `rssi`. -/
  rssi : Int8
  /-- `secure`. -/
  secure : Bool
deriving DecidableEq

/-- What `scan_handler` shares with the WiFi manager. -/
structure Portal where
  /-- `SCAN_CACHE`. -/
  scanCache : HVec NetInfo 16
  /-- Whether `RESCAN_REQ` is signalled. -/
  rescanReq : Bool

/-- `SCAN_JSON_CAP`. -/
def scanJsonCap : Nat := 768

/-- `SCAN_ENTRY_CAP`. -/
def scanEntryCap : Nat := 128

/-- A turn of the loop over the characters of an SSID. -/
def pushEscaped (entry : HString scanEntryCap) (c : Char) : HString scanEntryCap :=
  let entry := if c = '"' ∨ c = '\\' then entry.push '\\' else entry
  entry.push c

/-- `Display` of an `i8`. -/
def showI8 (value : Int8) : String := String.ofList (Json.decimal value.toInt)

/-- The entry of the `i`-th network. -/
def scanEntry (i : Nat) (n : NetInfo) : HString scanEntryCap :=
  let entry := if i > 0 then HString.empty.push ',' else HString.empty
  let entry := entry.pushStr "\x7b\"ssid\":\""
  let entry := n.ssid.chars.foldl pushEscaped entry
  entry.writePieces ["\",\"rssi\":", showI8 n.rssi, ",\"secure\":", Device.showBool n.secure, "\x7d"]

/-- The loop over the networks, from the `i`-th on. -/
def scanEntries (i : Nat) (out : HString scanJsonCap) : List NetInfo → HString scanJsonCap
  | [] => out
  | n :: nets =>
    let entry := scanEntry i n
    if scanJsonCap - out.len < entry.len + 1 then out
    else scanEntries (i + 1) (out.pushStr entry.val) nets

/-- `scan_handler`, with the body of its response. -/
def Portal.scanHandler (portal : Portal) : Portal × HString scanJsonCap :=
  let out := scanEntries 0 (HString.empty.push '[') portal.scanCache.val
  ({ portal with rescanReq := true }, out.push ']')

/-! ## The scan -/

/-- `AuthenticationMethod` of the radio driver, whose methods but the open one are not told
apart. -/
inductive AuthenticationMethod (Method : Type) where
  /-- `AuthenticationMethod::None`. -/
  | none
  /-- Any other method. -/
  | other (method : Method)
deriving DecidableEq

/-- `AccessPointInfo`, one result of a scan. -/
structure AccessPoint (Method : Type) where
  /-- `ssid`. -/
  ssid : String
  /-- `channel`. -/
  channel : UInt8
  /-- `signal_strength`. -/
  signalStrength : Int8
  /-- `auth_method`. -/
  authMethod : Option (AuthenticationMethod Method)
deriving DecidableEq

/-- `NetInfo`, with the fields of the join. -/
structure CachedNet (Method : Type) extends NetInfo where
  /-- `channel`. -/
  channel : UInt8
  /-- `auth`. -/
  auth : Option (AuthenticationMethod Method)
deriving DecidableEq

section Scan

variable {Method : Type}

/-- `secure`, whether an access point asks for a password. -/
def AccessPoint.secure (ap : AccessPoint Method) : Bool :=
  match ap.authMethod with
  | Option.none => false
  | some .none => false
  | some (.other _) => true

/-- A turn of the loop of `refresh_scan`. -/
def refreshOne (cache : HVec (CachedNet Method) 16) (ap : AccessPoint Method) :
    HVec (CachedNet Method) 16 :=
  let ssid : HString 32 := HString.empty.pushStr ap.ssid
  if ssid.isEmpty then cache
  else
    match cache.val.findIdx? (fun n => n.ssid == ssid) with
    | some index =>
      cache.modify (fun existing =>
        { existing with
          rssi := ap.signalStrength
          secure := ap.secure
          channel := ap.channel
          auth := ap.authMethod }) index
    | Option.none =>
      if !cache.isFull then
        (cache.push? ⟨⟨ssid, ap.signalStrength, ap.secure⟩, ap.channel, ap.authMethod⟩).getD cache
      else cache

/-- `refresh_scan`: merge what a scan has found into the cache. -/
def refreshScan (cache : HVec (CachedNet Method) 16) (found : List (AccessPoint Method)) :
    HVec (CachedNet Method) 16 :=
  found.foldl refreshOne cache

/-- The method `portal_wifi_task` joins a network with, if the network was scanned with one. -/
def scannedAuth (cache : HVec (CachedNet Method) 16) (ssid : HString 32) :
    Option (AuthenticationMethod Method) :=
  (cache.val.find? fun n => n.ssid == ssid).bind CachedNet.auth

end Scan

end Zugli
