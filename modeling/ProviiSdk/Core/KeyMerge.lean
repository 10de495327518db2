/-
  ProviiSdk.Core.KeyMerge — what merging issuer keys into the anchor gives.

  The loop of `union_merge` searches and changes the list that it
  extends, so a key id that is new to the anchor is an old one for the
  rest of the batch.  On an anchor with one key per key id the loop is a
  merge by upsert, and the merged list is known by its key ids, in order,
  and by the key under each of them.

  Main results:
    * `unionMerge_keys` — the loop is a merge by upsert.
    * `unionMerge_spec` — what a merge gives, and that merging the same
      keys again changes nothing.
-/

import ProviiSdk.Core.Sample
import ProviiSdk.Lib.Upsert

namespace ProviiSdk.Core

open ProviiSdk.Upsert

/-! ## §1. The loop as a merge -/

/-- One round of the merge is an upsert. -/
theorem mergeKey_eq (ks : List TrustedIssuerKey) (newKey : TrustedIssuerKey) :
    mergeKey ks newKey = upsert TrustedIssuerKey.kid ks newKey := by
  induction ks with
  | nil => rfl
  | cons k ks ih =>
    unfold mergeKey upsert
    split
    next h =>
      -- a key is its id and its bytes
      have hkey : ({ k with vk := newKey.vk } : TrustedIssuerKey) = newKey := by
        rw [TrustedIssuerKey.mk.injEq]
        exact ⟨h, rfl⟩
      rw [hkey]
    next h => rw [ih]

/-- A merge is a sequence of upserts. -/
theorem unionMerge_keys (anchor : IssuerTrustAnchor) (newKeys : List TrustedIssuerKey) :
    (anchor.unionMerge newKeys).keys = upsertAll TrustedIssuerKey.kid anchor.keys newKeys := by
  have hfun : mergeKey = upsert TrustedIssuerKey.kid := by
    funext ks newKey
    exact mergeKey_eq ks newKey
  show newKeys.foldl mergeKey anchor.keys = newKeys.foldl (upsert TrustedIssuerKey.kid) anchor.keys
  rw [hfun]

/-! ## §2. The specification -/

/-- The key ids of some keys. -/
def kids (ks : List TrustedIssuerKey) : List String := ks.map TrustedIssuerKey.kid

/-- **What a merge of new keys into old ones should give.** -/
structure Merged (old newKeys merged : List TrustedIssuerKey) : Prop where
  /-- the key ids are pairwise distinct -/
  distinct : (kids merged).Nodup
  /-- the old key ids in their places, then each new one once, in order
      of first appearance -/
  order : kids merged = kids old ++ freshKeys (kids old) (kids newKeys)
  /-- a key id of the batch has the key of its last occurrence there -/
  replaced : ∀ k ∈ merged, k.kid ∈ kids newKeys →
    ∃ last, lastUnder TrustedIssuerKey.kid newKeys k.kid = some last ∧ k.vk = last.vk
  /-- every other key is an old one -/
  kept : ∀ k ∈ merged, k.kid ∉ kids newKeys → k ∈ old

/-- A merge into distinct key ids does so. -/
theorem merged_upsertAll {old : List TrustedIssuerKey} (h : OneEach TrustedIssuerKey.kid old)
    (newKeys : List TrustedIssuerKey) :
    Merged old newKeys (upsertAll TrustedIssuerKey.kid old newKeys) := by
  refine ⟨oneEach_upsertAll h newKeys, map_key_upsertAll old newKeys, ?_, ?_⟩
  · intro k hk hnew
    rcases mem_upsertAll h newKeys hk with hlast | ⟨hnone, -⟩
    · exact ⟨k, hlast, rfl⟩
    · exact absurd hnew ((lastUnder_eq_none_iff newKeys k.kid).1 hnone)
  · intro k hk hold
    rcases mem_upsertAll h newKeys hk with hlast | ⟨-, hmem⟩
    · rw [(lastUnder_eq_none_iff newKeys k.kid).2 hold] at hlast
      cases hlast
    · exact hmem

/-- **The specification of `union_merge`.**  On an anchor with pairwise
    distinct key ids the merged keys are what a merge should give,
    whatever the batch repeats, and merging the same batch once more
    changes nothing. -/
theorem unionMerge_spec (anchor : IssuerTrustAnchor) (newKeys : List TrustedIssuerKey)
    (h : (kids anchor.keys).Nodup) :
    Merged anchor.keys newKeys (anchor.unionMerge newKeys).keys ∧
      (anchor.unionMerge newKeys).unionMerge newKeys = anchor.unionMerge newKeys := by
  have hone : OneEach TrustedIssuerKey.kid anchor.keys := h
  refine ⟨?_, ?_⟩
  · rw [unionMerge_keys]
    exact merged_upsertAll hone newKeys
  · have hkeys : ((anchor.unionMerge newKeys).unionMerge newKeys).keys =
        (anchor.unionMerge newKeys).keys := by
      rw [unionMerge_keys, unionMerge_keys, upsertAll_idem hone]
    exact congrArg (fun keys => { anchor with keys }) hkeys

/-- Bytes to tell keys apart by. -/
def keyOf (kid : String) (byte : UInt8) : TrustedIssuerKey :=
  { kid, vk := List.Vector.replicate 32 byte }

/-- An anchor of two keys, and a batch that rotates the second and brings
    a third one in twice. -/
def twoKeys : IssuerTrustAnchor := { keys := [keyOf "a" 1, keyOf "b" 2], fetchedAt := 1 }

def rotation : List TrustedIssuerKey := [keyOf "c" 3, keyOf "b" 4, keyOf "c" 5]

theorem unionMerge_spec_rotation :
    (twoKeys.unionMerge rotation).keys = [keyOf "a" 1, keyOf "b" 4, keyOf "c" 5] ∧
      Merged twoKeys.keys rotation (twoKeys.unionMerge rotation).keys ∧
      (twoKeys.unionMerge rotation).unionMerge rotation = twoKeys.unionMerge rotation :=
  ⟨by decide +kernel, unionMerge_spec twoKeys rotation (by decide)⟩

end ProviiSdk.Core
