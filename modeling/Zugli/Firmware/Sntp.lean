/-!
# The clock sample

What the SNTP client makes of what it receives within its timeout.
-/

namespace Zugli

/-- `NTP_TO_UNIX`: seconds between 1900 and 1970. -/
def ntpToUnix : Int64 := 2208988800

/-- `u32::from_be_bytes`. -/
def u32OfBigEndian (first second third fourth : UInt8) : UInt32 :=
  .ofNat (((first.toNat * 256 + second.toNat) * 256 + third.toNat) * 256 + fourth.toNat)

/-- `sync`, from the bytes of the reply, none when the exchange fails. -/
def sync (received : Option (List UInt8)) : Option Int64 := do
  let reply ← received
  if reply.length < 48 then none
  else
    let secs := u32OfBigEndian (reply.getD 40 0) (reply.getD 41 0) (reply.getD 42 0)
      (reply.getD 43 0)
    some (.ofNat secs.toNat - ntpToUnix)

end Zugli
