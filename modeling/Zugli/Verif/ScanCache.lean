import Zugli.Firmware.Portal
import Zugli.Lib.Keyed

/-!
# The cache of scanned networks

A scan merges its access points into the cache by their SSIDs. No SSID is cached twice, none is
ever dropped or moved, each network is as its access point was last seen, and one that was seen is
missing only from a full cache.
-/

namespace Zugli

open Keyed

variable {Method : Type}

/-- The network an access point is cached as, unless its SSID is empty or too long. -/
def AccessPoint.net? (ap : AccessPoint Method) : Option (CachedNet Method) :=
  let ssid : HString 32 := HString.empty.pushStr ap.ssid
  if ssid.isEmpty then none
  else some ⟨⟨ssid, ap.signalStrength, ap.secure⟩, ap.channel, ap.authMethod⟩

/-- The SSID of a cached network. -/
def CachedNet.key (net : CachedNet Method) : HString 32 := net.ssid

/-- An access point is cached when its SSID has 1 to 32 bytes. -/
theorem AccessPoint.net?_eq (ap : AccessPoint Method) :
    ap.net? =
      if room : ap.ssid ≠ "" ∧ ap.ssid.utf8ByteSize ≤ 32 then
        some ⟨⟨⟨ap.ssid, room.2⟩, ap.signalStrength, ap.secure⟩, ap.channel, ap.authMethod⟩
      else none := by
  unfold net?
  split
  · next room =>
    have pushed : HString.empty.pushStr ap.ssid = (⟨ap.ssid, room.2⟩ : HString 32) := by
      simp [HString.pushStr, HString.pushStr?, HString.empty, HString.ofString?, room.2]
    have named : (⟨ap.ssid, room.2⟩ : HString 32).isEmpty = false := by
      simpa [HString.isEmpty] using room.1
    simp only [pushed, named, Bool.false_eq_true, if_false]
  · next refused =>
    have dropped : (HString.empty.pushStr ap.ssid : HString 32).isEmpty = true := by
      by_cases named : ap.ssid = ""
      · simp [named, HString.pushStr, HString.pushStr?, HString.empty, HString.ofString?,
          HString.isEmpty]
      · have long : ¬ap.ssid.utf8ByteSize ≤ 32 := fun short => refused ⟨named, short⟩
        simp [HString.pushStr, HString.pushStr?, HString.empty, HString.ofString?, long,
          HString.isEmpty]
    simp only [dropped, if_true]

/-- A turn of the loop merges the network of its access point. -/
theorem refreshOne_val (cache : HVec (CachedNet Method) 16) (ap : AccessPoint Method) :
    (refreshOne cache ap).val =
      match ap.net? with
      | some net => merge CachedNet.key 16 cache.val net
      | none => cache.val := by
  unfold refreshOne AccessPoint.net?
  generalize (HString.empty.pushStr ap.ssid : HString 32) = ssid
  by_cases dropped : ssid.isEmpty = true
  · simp only [dropped, if_true]
  · simp only [dropped]
    let net : CachedNet Method :=
      ⟨⟨ssid, ap.signalStrength, ap.secure⟩, ap.channel, ap.authMethod⟩
    have search : cache.val.findIdx? (fun n => n.ssid == ssid) =
        cache.val.findIdx? (fun other => CachedNet.key other = net.key) := rfl
    show _ = merge CachedNet.key 16 cache.val net
    rw [search, merge]
    cases found : cache.val.findIdx? (fun other => CachedNet.key other = net.key) with
    | some index =>
      obtain ⟨inside, same, _⟩ := List.findIdx?_eq_some_iff_getElem.mp found
      have known : cache.val[index].ssid = ssid := of_decide_eq_true same
      show cache.val.modify index _ = cache.val.set index net
      have : Inhabited (CachedNet Method) := ⟨net⟩
      rw [List.modify_eq_set, List.getElem?_eq_getElem inside, Option.getD_some, known]
    | none =>
      by_cases full : cache.isFull = true
      · have noRoom : ¬cache.val.length < 16 := by
          rw [of_decide_eq_true full]
          omega
        simp [full, noRoom]
      · have room : cache.val.length < 16 := by
          have bound := cache.fits
          have apart : cache.val.length ≠ 16 := fun same => full (decide_eq_true same)
          omega
        have longer : cache.val.length + 1 ≤ 16 := room
        simp [full, room, HVec.push?, HVec.ofList?, longer, net]

/-- A scan merges the networks of its access points. -/
theorem refreshScan_val (cache : HVec (CachedNet Method) 16) (found : List (AccessPoint Method)) :
    (refreshScan cache found).val =
      (found.filterMap AccessPoint.net?).foldl (merge CachedNet.key 16) cache.val := by
  induction found generalizing cache with
  | nil => rfl
  | cons ap found previous =>
    have step : (refreshScan cache (ap :: found)).val =
        (refreshScan (refreshOne cache ap) found).val := rfl
    rw [step, previous, refreshOne_val]
    cases net : ap.net? with
    | none => rw [List.filterMap_cons_none net]
    | some net' => rw [List.filterMap_cons_some net, List.foldl_cons]

/-- A scan carries on what merging the networks of all scans leaves. -/
theorem merged_refreshScan {seen : List (AccessPoint Method)}
    {cache : HVec (CachedNet Method) 16}
    (merged : Merged CachedNet.key 16 (seen.filterMap AccessPoint.net?) cache.val)
    (found : List (AccessPoint Method)) :
    Merged CachedNet.key 16 ((seen ++ found).filterMap AccessPoint.net?)
      (refreshScan cache found).val := by
  rw [refreshScan_val, List.filterMap_append]
  exact merged_foldl merged _

/-- The cache after scans, from an empty one. -/
def scanned (scans : List (List (AccessPoint Method))) : HVec (CachedNet Method) 16 :=
  scans.foldl refreshScan .empty

/-- The cache holds what merging the networks of all scans leaves. -/
theorem merged_scanned (scans : List (List (AccessPoint Method))) :
    Merged CachedNet.key 16 (scans.flatten.filterMap AccessPoint.net?) (scanned scans).val := by
  induction scans using List.reverseRecOn with
  | nil => exact .nil CachedNet.key 16
  | append_singleton scans scan merged =>
    have next : scanned (scans ++ [scan]) = refreshScan (scanned scans) scan := by
      rw [scanned, List.foldl_append]
      rfl
    have all : (scans ++ [scan]).flatten = scans.flatten ++ scan := by simp
    rw [next, all]
    exact merged_refreshScan merged scan

/-- The access point a cached network stands for. -/
theorem AccessPoint.net?_eq_some {ap : AccessPoint Method} {net : CachedNet Method} :
    ap.net? = some net ↔ ap.ssid ≠ "" ∧ net.ssid.val = ap.ssid ∧ net.rssi = ap.signalStrength ∧
      net.secure = ap.secure ∧ net.channel = ap.channel ∧ net.auth = ap.authMethod := by
  rw [net?_eq]
  constructor
  · intro cached
    split at cached
    · next room =>
      cases cached
      exact ⟨room.1, rfl, rfl, rfl, rfl, rfl⟩
    · cases cached
  · rintro ⟨named, same, signal, secured, tuned, method⟩
    have short : ap.ssid.utf8ByteSize ≤ 32 := same ▸ net.ssid.fits
    have ssid : net.ssid = ⟨ap.ssid, short⟩ := HString.ext same
    rw [dif_pos ⟨named, short⟩, ← ssid, ← signal, ← secured, ← tuned, ← method]

/-- A cached network is as its access point was last seen. -/
theorem last_seen {seen : List (AccessPoint Method)} {net : CachedNet Method}
    (last : IsLast CachedNet.key (seen.filterMap AccessPoint.net?) net) :
    ∃ earlier ap later, seen = earlier ++ ap :: later ∧ ap.net? = some net ∧
      ∀ other ∈ later, other.ssid ≠ net.ssid.val := by
  obtain ⟨before, after, split, apart⟩ := last
  obtain ⟨first, second, rfl, _, found⟩ := List.filterMap_eq_append_iff.mp split
  obtain ⟨skipped, ap, later, rfl, _, cached, rest⟩ := List.filterMap_eq_cons_iff.mp found
  refine ⟨first ++ skipped, ap, later, by simp, cached, ?_⟩
  intro other member same
  obtain ⟨named, ssid, _⟩ := AccessPoint.net?_eq_some.mp cached
  have alsoCached : other.net? = some ⟨⟨net.ssid, other.signalStrength, other.secure⟩,
      other.channel, other.authMethod⟩ :=
    AccessPoint.net?_eq_some.mpr
      ⟨by rw [same, ssid]; exact named, same.symm, rfl, rfl, rfl, rfl⟩
  have listed := List.mem_filterMap.mpr ⟨other, member, alsoCached⟩
  rw [rest] at listed
  exact apart _ listed rfl

/-- A join takes the authentication method of the cached network. -/
theorem scannedAuth_eq {cache : HVec (CachedNet Method) 16}
    (distinct : (cache.val.map CachedNet.key).Nodup) {net : CachedNet Method}
    (member : net ∈ cache.val) : scannedAuth cache net.ssid = net.auth := by
  have found : cache.val.find? (fun n => n.ssid == net.ssid) = some net := by
    cases search : cache.val.find? (fun n => n.ssid == net.ssid) with
    | none => exact absurd (beq_self_eq_true net.ssid) (List.find?_eq_none.mp search net member)
    | some other =>
      have matched := List.find?_some search
      have same : other.key = net.key := eq_of_beq matched
      rw [List.inj_on_of_nodup_map distinct (List.mem_of_find?_eq_some search) member same]
  rw [scannedAuth, found, Option.bind_some]

/-- The cache over any scans. After a further one it holds at most 16 networks, each with an SSID of
its own that is not empty; the networks cached before are still cached where they were; each network
is as the access point seen last with its SSID, which is the method it is joined with; and an access
point whose SSID has 1 to 32 bytes is missing only from a full cache. -/
theorem scanCache_merges (scans : List (List (AccessPoint Method)))
    (scan : List (AccessPoint Method)) :
    let before := scanned scans
    let after := refreshScan before scan
    after.val.length ≤ 16 ∧ (after.val.map CachedNet.key).Nodup ∧
      (∀ net ∈ after.val, net.ssid.val ≠ "") ∧
      before.val.map CachedNet.key <+: after.val.map CachedNet.key ∧
      (∀ net ∈ after.val, scannedAuth after net.ssid = net.auth ∧
        ∃ earlier ap later, (scans ++ [scan]).flatten = earlier ++ ap :: later ∧
          net.ssid.val = ap.ssid ∧ net.rssi = ap.signalStrength ∧ net.secure = ap.secure ∧
          net.channel = ap.channel ∧ net.auth = ap.authMethod ∧
          ∀ other ∈ later, other.ssid ≠ net.ssid.val) ∧
      ∀ ap ∈ scan, ap.ssid ≠ "" → ap.ssid.utf8ByteSize ≤ 32 →
        (∀ net ∈ after.val, net.ssid.val ≠ ap.ssid) → after.val.length = 16 := by
  intro before after
  have merged : Merged CachedNet.key 16 ((scans ++ [scan]).flatten.filterMap AccessPoint.net?)
      after.val := by
    have all : (scans ++ [scan]).flatten = scans.flatten ++ scan := by simp
    rw [all]
    exact merged_refreshScan (merged_scanned scans) scan
  refine ⟨after.fits, merged.distinct, fun net member => ?_, ?_, fun net member => ?_,
    fun ap seen named short missing => ?_⟩
  · obtain ⟨_, ap, _, _, cached, _⟩ := last_seen (merged.last net member)
    obtain ⟨named, same, _⟩ := AccessPoint.net?_eq_some.mp cached
    rw [same]
    exact named
  · show before.val.map CachedNet.key <+: (refreshScan before scan).val.map CachedNet.key
    rw [refreshScan_val]
    exact keys_prefix_foldl _ _
  · obtain ⟨earlier, ap, later, split, cached, apart⟩ := last_seen (merged.last net member)
    obtain ⟨_, ssid, rssi, secure, channel, auth⟩ := AccessPoint.net?_eq_some.mp cached
    exact ⟨scannedAuth_eq merged.distinct member, earlier, ap, later, split, ssid, rssi, secure,
      channel, auth, apart⟩
  · let net : CachedNet Method :=
      ⟨⟨⟨ap.ssid, short⟩, ap.signalStrength, ap.secure⟩, ap.channel, ap.authMethod⟩
    have cached : ap.net? = some net :=
      AccessPoint.net?_eq_some.mpr ⟨named, rfl, rfl, rfl, rfl, rfl⟩
    have inScans : ap ∈ (scans ++ [scan]).flatten := by simp [seen]
    refine merged.complete net (List.mem_filterMap.mpr ⟨ap, inScans, cached⟩) ?_
    intro known
    obtain ⟨other, member, same⟩ := List.mem_map.mp known
    exact missing other member (congrArg HString.val same)

end Zugli
