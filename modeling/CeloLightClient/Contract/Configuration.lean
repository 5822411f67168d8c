import CeloLightClient.RoundTrip
import CeloLightClient.Contract.Reference

/-!
Configurations as RLP: that of the state machine alone, and that of a client.

They are read by index, so items that come after those of a configuration change nothing.
-/

namespace CeloLightClient

open Lib Lib.Rlp Lib.Outcome

/-- The configuration of a state machine without a contract around it. -/
abbrev Config := StateConfig

variable (R : Codec)

def Config.item (c : Config) : Item :=
  .list [
    .data (R.u64Data c.epochSize),
    .data (R.u64Data c.allowedClockSkew),
    .data (R.boolData c.verifyEpochHeaders),
    .data (R.boolData c.verifyNonEpochHeaders),
    .data (R.boolData c.verifyHeaderTimestamp)]

def Config.decode (rlp : Bytes) : Outcome DecoderError Config := do
  let epochSize ← u64At R rlp 0
  let allowedClockSkew ← u64At R rlp 1
  let verifyEpochHeaders ← Contract.boolAt R rlp 2
  let verifyNonEpochHeaders ← Contract.boolAt R rlp 3
  let verifyHeaderTimestamp ← Contract.boolAt R rlp 4
  pure {
    epochSize, allowedClockSkew, verifyEpochHeaders, verifyNonEpochHeaders,
    verifyHeaderTimestamp }

def Config.fromRlp (bytes : Bytes) : Outcome Error Config := decodeWith (Config.decode R) bytes

def Config.toRlp (c : Config) : Bytes := R.encode (c.item R)

namespace Contract

section

variable {R} (hR : R.Lawful)
include hR

lemma boolAt_encode {l : List Item} (hl : R.Fits (.list l)) {i : ℕ} {b : Bool}
    (h : l[i]? = some (.data (R.boolData b))) : boolAt R (R.encode (.list l)) i = .ok b := by
  rw [boolAt, dataAt_encode hR hl h, ok_bind, hR.bool, ofExcept_ok]

lemma asString_encode {s : String} (h : R.Fits (.data (R.stringData s))) :
    asString R (R.encode (.data (R.stringData s))) = .ok s := by
  rw [asString, hR.value_data _ h, ofExcept_ok, ok_bind, hR.string, ofExcept_ok]

lemma mapM_asString_encode (strings : List String)
    (h : R.Fits (.list (strings.map fun s => .data (R.stringData s)))) :
    (R.iter (R.encode (.list (strings.map fun s => .data (R.stringData s))))).mapM (asString R) =
      .ok strings := by
  rw [hR.iter_list _ h, List.map_map]
  refine mapM_map_eq_ok fun s hs => ?_
  exact asString_encode hR (hR.fits_of_mem h (List.mem_map_of_mem hs))

end

end Contract

open Contract

section

variable {R} (hR : R.Lawful) (more : List Item)
include hR

theorem Config.fromRlp_encode {c : Config} (h : R.Fits ((c.item R).append more)) :
    Config.fromRlp R (R.encode ((c.item R).append more)) = .ok c := by
  unfold Config.item Item.append at h ⊢
  rw [Config.fromRlp, decodeWith, Config.decode, u64At_encode hR h rfl, ok_bind,
    u64At_encode hR h rfl, ok_bind, boolAt_encode hR h rfl, ok_bind, boolAt_encode hR h rfl,
    ok_bind, boolAt_encode hR h rfl, ok_bind, pure_eq_ok, mapErr_ok]

theorem Contract.LightClientState.fromRlp_encode {l : LightClientState}
    (h : R.Fits ((l.item R).append more)) :
    LightClientState.fromRlp R (R.encode ((l.item R).append more)) = .ok l := by
  unfold LightClientState.item Item.append at h ⊢
  have hpath := mapM_asString_encode hR l.upgradePath
    (hR.fits_of_mem h (List.mem_append_left _ (by simp)))
  rw [LightClientState.fromRlp, decodeWith, LightClientState.decode, u64At_encode hR h rfl,
    ok_bind, u64At_encode hR h rfl, ok_bind, u64At_encode hR h rfl, ok_bind,
    atIndex_encode hR h rfl, ofExcept_ok, ok_bind, hpath, ok_bind, boolAt_encode hR h rfl, ok_bind,
    boolAt_encode hR h rfl, ok_bind, boolAt_encode hR h rfl, ok_bind, boolAt_encode hR h rfl,
    ok_bind, boolAt_encode hR h rfl, ok_bind, pure_eq_ok, mapErr_ok]

end

namespace Contract

/-- **Configurations are read back**, whatever items come behind their own; that of a client is what
every call reads out of the data it comes in. -/
theorem configuration_read {H : Host} (hrlp : H.rlp.Lawful) (hbase64 : H.base64.Lawful) :
    (∀ c : Config, (c.toRlp H.rlp).length < 2 ^ 64 →
        Config.fromRlp H.rlp (c.toRlp H.rlp) = .ok c) ∧
      (∀ (l : LightClientState) (target : String), (l.toRlp H.rlp).length < 2 ^ 64 →
        fromBase64Rlp H (LightClientState.fromRlp H.rlp) (H.base64.encode (l.toRlp H.rlp)) target =
          .ok l) ∧
      ∀ more : List Item,
        (∀ c : Config, H.rlp.Fits ((c.item H.rlp).append more) →
          Config.fromRlp H.rlp (H.rlp.encode ((c.item H.rlp).append more)) = .ok c) ∧
        ∀ (l : LightClientState) (target : String), H.rlp.Fits ((l.item H.rlp).append more) →
          fromBase64Rlp H (LightClientState.fromRlp H.rlp)
            (H.base64.encode (H.rlp.encode ((l.item H.rlp).append more))) target = .ok l := by
  refine ⟨fun c h => ?_, fun l target h => ?_, fun more => ⟨fun c h => ?_, fun l target h => ?_⟩⟩
  · exact Config.fromRlp_encode hrlp [] h
  · exact fromBase64Rlp_of_lawful hbase64 (LightClientState.fromRlp_encode hrlp [] h) target
  · exact Config.fromRlp_encode hrlp more h
  · exact fromBase64Rlp_of_lawful hbase64 (LightClientState.fromRlp_encode hrlp more h) target

/-- The client of the small chain, with an item that a later version may have added. -/
theorem configuration_read_later :
    fromBase64Rlp (Reference.host []) (LightClientState.fromRlp Rlp.reference)
      (Base64.reference.encode (Rlp.reference.encode
        ((Reference.lightClient.item Rlp.reference).append [.data [1]]))) "me" =
      .ok Reference.lightClient := by
  have hfits : (Rlp.reference.encode
      ((Reference.lightClient.item Rlp.reference).append [.data [1]])).length < 2 ^ 64 := by
    decide +kernel
  exact ((configuration_read (H := Reference.host []) Rlp.reference_lawful
    Base64.reference_lawful).2.2 [.data [1]]).2 Reference.lightClient "me" hfits

end Contract

end CeloLightClient
