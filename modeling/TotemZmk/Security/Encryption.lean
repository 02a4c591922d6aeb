/-
`security_timing.c`: what it captures of the encryption events that pass through
the host's receive queue.

A read outside the buffer is answered by `.none`.

* `encryption_parsed`: which bytes are captured, and that no others are looked
  at.
* `Shows`: the three layouts, with their shortest lengths.
-/
import TotemZmk.Handoff.Summary

namespace TotemZmk

/-! ## `enum totem_host_evt` -/

def totemHevtEncryptEvent : UInt8 := 36
def totemHevtSecurityExchange : UInt8 := 38

/-! ## HCI events -/

/-- `BT_HCI_EVT_ENCRYPT_CHANGE` -/
def btHciEvtEncryptChange : UInt8 := 0x08

/-- `BT_HCI_EVT_ENCRYPT_KEY_REFRESH_COMPLETE` -/
def btHciEvtEncryptKeyRefreshComplete : UInt8 := 0x30

/-- `BT_HCI_EVT_LE_META_EVENT` -/
def btHciEvtLeMetaEvent : UInt8 := 0x3e

/-- `BT_HCI_EVT_LE_LTK_REQUEST` -/
def btHciEvtLeLtkRequest : UInt8 := 0x05

/-- `sizeof(struct bt_hci_evt_hdr)` -/
def hdrSize : Nat := 2

/-- `sizeof(struct bt_hci_evt_le_meta_event)` and of `struct bt_hci_evt_le_ltk_request`. -/
def leMetaEventSize : Nat := 1
def leLtkRequestSize : Nat := 12

/-- `sizeof(struct bt_hci_evt_encrypt_change)`, with the offsets of its `handle`
and `encrypt`, and of `struct bt_hci_evt_encrypt_key_refresh_complete`. -/
def encryptChangeSize : Nat := 4
def encryptChangeHandle : Nat := 1
def encryptChangeEncrypt : Nat := 3
def encryptKeyRefreshCompleteSize : Nat := 3

/-- A buffer: whether `bt_buf_get_type` is `BT_BUF_EVT`, and its `len` bytes. -/
structure NetBuf where
  event : Bool
  data : List UInt8
deriving DecidableEq, Repr

namespace Encryption

open Handoff (capture)

/-- The value of two bytes, the low one first. -/
def le16 (low high : UInt8) : UInt16 := low.toUInt16 ||| (high.toUInt16 <<< 8)

/-- `sys_get_le16` -/
def sysGetLe16 (data : List UInt8) (i : Nat) : Option UInt16 := do
  let low ← data[i]?
  let high ← data[i + 1]?
  return le16 low high

/-- The condition of the first capture. -/
def isLtkRequest (data : List UInt8) (evt len : UInt8) : Option Bool :=
  if evt = btHciEvtLeMetaEvent ∧ leMetaEventSize + leLtkRequestSize ≤ len.toNat then do
    let subevent ← data[hdrSize]?
    return subevent = btHciEvtLeLtkRequest
  else .some false

/-- `encryption_observed`, of a list that is `bt_dev.rx_queue` or not. -/
def encryptionObserved (now : UInt32) (rxQueue : Bool) (buf : Option NetBuf) (stage : UInt8) :
    Option (List TimingRecord) :=
  match buf with
  | .none => .some []
  | .some buf =>
    if rxQueue = false ∨ buf.event = false ∨ buf.data.length < hdrSize then .some []
    else do
      let evt ← buf.data[0]?
      let len ← buf.data[1]?
      if buf.data.length < hdrSize + len.toNat then return []
      else if ← isLtkRequest buf.data evt len then
        let handle ← sysGetLe16 buf.data (hdrSize + leMetaEventSize)
        return [capture now totemHevtSecurityExchange handle (6 + stage) 0 0]
      else
        let refresh : Bool := evt = btHciEvtEncryptKeyRefreshComplete
        if evt ≠ btHciEvtEncryptChange ∧ refresh = false then return []
        else
          let required := if refresh then encryptKeyRefreshCompleteSize else encryptChangeSize
          if len.toNat < required ∨ buf.data.length < hdrSize + len.toNat then return []
          else
            let handle ← sysGetLe16 buf.data (hdrSize + encryptChangeHandle)
            let status ← buf.data[hdrSize]?
            let enable ← if refresh then .some 255 else buf.data[hdrSize + encryptChangeEncrypt]?
            return [capture now totemHevtEncryptEvent handle (stage + if refresh then 2 else 0)
              status enable]

/-- A wrapper's call on a list, with the buffer `__real_net_buf_slist_get` returned. -/
inductive SlistCall where
  | put (buf : NetBuf)
  | get (buf : Option NetBuf)
deriving DecidableEq, Repr

def SlistCall.buf : SlistCall → Option NetBuf
  | .put buf => .some buf
  | .get buf => buf

/-- The stage a wrapper passes. -/
def SlistCall.stage : SlistCall → UInt8
  | .put _ => 0
  | .get _ => 1

/-- `__wrap_net_buf_slist_put` and `__wrap_net_buf_slist_get` -/
def SlistCall.observed (now : UInt32) (rxQueue : Bool) (call : SlistCall) :
    Option (List TimingRecord) :=
  encryptionObserved now rxQueue call.buf call.stage

/-! ## The layouts -/

/-- The bytes of an event, and what is captured of them. All the parameters the
header announces are there. -/
inductive Shows (now : UInt32) (stage : UInt8) : List UInt8 → TimingRecord → Prop where
  | ltkRequest {len low high : UInt8} {more : List UInt8}
    (hthere : len.toNat ≤ (btHciEvtLeLtkRequest :: low :: high :: more).length)
    (hlen : 13 ≤ len.toNat) :
    Shows now stage (btHciEvtLeMetaEvent :: len :: btHciEvtLeLtkRequest :: low :: high :: more)
      (capture now totemHevtSecurityExchange (le16 low high) (6 + stage) 0 0)
  | encryptChange {len status low high enable : UInt8} {more : List UInt8}
    (hthere : len.toNat ≤ (status :: low :: high :: enable :: more).length)
    (hlen : 4 ≤ len.toNat) :
    Shows now stage (btHciEvtEncryptChange :: len :: status :: low :: high :: enable :: more)
      (capture now totemHevtEncryptEvent (le16 low high) stage status enable)
  | refresh {len status low high : UInt8} {more : List UInt8}
    (hthere : len.toNat ≤ (status :: low :: high :: more).length) (hlen : 3 ≤ len.toNat) :
    Shows now stage (btHciEvtEncryptKeyRefreshComplete :: len :: status :: low :: high :: more)
      (capture now totemHevtEncryptEvent (le16 low high) (stage + 2) status 255)

variable {now : UInt32} {stage : UInt8} {data : List UInt8} {r : TimingRecord}

theorem observed_of_shows (h : Shows now stage data r) :
    encryptionObserved now true (.some ⟨true, data⟩) stage = .some [r] := by
  cases h with
  | @ltkRequest len low high more hthere hlen =>
    simp only [List.length_cons] at hthere
    have hlong : ¬more.length + 1 + 1 + 1 + 1 + 1 < 2 + len.toNat := by omega
    simp [encryptionObserved, isLtkRequest, sysGetLe16, hdrSize, leMetaEventSize, leLtkRequestSize,
      hlong, hlen]
  | @encryptChange len status low high enable more hthere hlen =>
    simp only [List.length_cons] at hthere
    have hlong : ¬more.length + 1 + 1 + 1 + 1 + 1 + 1 < 2 + len.toNat := by omega
    have hshort : ¬len.toNat < 4 := by omega
    simp [encryptionObserved, isLtkRequest, sysGetLe16, hdrSize, encryptChangeHandle,
      encryptChangeEncrypt, encryptChangeSize, btHciEvtEncryptChange, btHciEvtLeMetaEvent,
      btHciEvtEncryptKeyRefreshComplete, hlong, hshort]
  | @refresh len status low high more hthere hlen =>
    simp only [List.length_cons] at hthere
    have hlong : ¬more.length + 1 + 1 + 1 + 1 + 1 < 2 + len.toNat := by omega
    have hshort : ¬len.toNat < 3 := by omega
    simp [encryptionObserved, isLtkRequest, sysGetLe16, hdrSize, encryptChangeHandle,
      encryptKeyRefreshCompleteSize, btHciEvtEncryptChange, btHciEvtLeMetaEvent,
      btHciEvtEncryptKeyRefreshComplete, hlong, hshort]

/-- An event that is no long-term key request, and too short for the others. -/
theorem observed_of_other {evt len : UInt8} {params : List UInt8}
    (hthere : len.toNat ≤ params.length)
    (hltk : isLtkRequest (evt :: len :: params) evt len = .some false)
    (hchange : evt = btHciEvtEncryptChange → len.toNat < encryptChangeSize)
    (hrefresh : evt = btHciEvtEncryptKeyRefreshComplete →
      len.toNat < encryptKeyRefreshCompleteSize) :
    encryptionObserved now true (.some ⟨true, evt :: len :: params⟩) stage = .some [] := by
  have hlong : ¬params.length + 1 + 1 < hdrSize + len.toNat := by
    unfold hdrSize
    omega
  have hheader : ¬params.length + 1 + 1 < hdrSize := by
    unfold hdrSize
    omega
  by_cases hr : evt = btHciEvtEncryptKeyRefreshComplete
  · subst hr
    simp [encryptionObserved, hlong, hheader, hltk, hrefresh rfl]
  by_cases hc : evt = btHciEvtEncryptChange
  · subst hc
    simp [encryptionObserved, hlong, hheader, hltk, hr, hchange rfl]
  · simp [encryptionObserved, hlong, hheader, hltk, hr, hc]

theorem isLtkRequest_of_ne {evt len : UInt8} (h : evt ≠ btHciEvtLeMetaEvent) :
    isLtkRequest data evt len = .some false := by simp [isLtkRequest, h]

/-- The fields an event names, after its header: those the captures hold, and
the subevent that tells them apart. -/
inductive Named : UInt8 → UInt8 → List UInt8 → Prop where
  | ltkRequest {len low high : UInt8} :
    Named btHciEvtLeMetaEvent len [btHciEvtLeLtkRequest, low, high]
  | encryptChange {len status low high enable : UInt8} :
    Named btHciEvtEncryptChange len [status, low, high, enable]
  | refresh {len status low high : UInt8} :
    Named btHciEvtEncryptKeyRefreshComplete len [status, low, high]
  | leMeta {len subevent : UInt8} (h : subevent ≠ btHciEvtLeLtkRequest) :
    Named btHciEvtLeMetaEvent len [subevent]
  | other {evt len : UInt8} (hmeta : evt ≠ btHciEvtLeMetaEvent) (hc : evt ≠ btHciEvtEncryptChange)
    (hr : evt ≠ btHciEvtEncryptKeyRefreshComplete) : Named evt len []

theorem Named.observed {evt len : UInt8} {fields : List UInt8} (h : Named evt len fields)
    (now : UInt32) (stage : UInt8) : ∃ records, ∀ more, len.toNat ≤ (fields ++ more).length →
      encryptionObserved now true (.some ⟨true, evt :: len :: (fields ++ more)⟩) stage =
        .some records := by
  cases h with
  | @ltkRequest len low high =>
    by_cases hlen : 13 ≤ len.toNat
    · exact ⟨_, fun more hthere => observed_of_shows (.ltkRequest hthere hlen)⟩
    · refine ⟨[], fun more hthere => observed_of_other hthere ?_ (fun h => absurd h (by decide))
        fun h => absurd h (by decide)⟩
      simp [isLtkRequest, leMetaEventSize, leLtkRequestSize, hlen]
  | @encryptChange len status low high enable =>
    by_cases hlen : 4 ≤ len.toNat
    · exact ⟨_, fun more hthere => observed_of_shows (.encryptChange hthere hlen)⟩
    · exact ⟨[], fun more hthere => observed_of_other hthere (isLtkRequest_of_ne (by decide))
        (fun _ => Nat.lt_of_not_le hlen) fun h => absurd h (by decide)⟩
  | @refresh len status low high =>
    by_cases hlen : 3 ≤ len.toNat
    · exact ⟨_, fun more hthere => observed_of_shows (.refresh hthere hlen)⟩
    · exact ⟨[], fun more hthere => observed_of_other hthere (isLtkRequest_of_ne (by decide))
        (fun h => absurd h (by decide)) fun _ => Nat.lt_of_not_le hlen⟩
  | @leMeta len subevent hsub =>
    refine ⟨[], fun more hthere => observed_of_other hthere ?_ (fun h => absurd h (by decide))
      fun h => absurd h (by decide)⟩
    simp [isLtkRequest, hdrSize, hsub]
  | other hmeta hc hr =>
    exact ⟨[], fun more hthere => observed_of_other hthere (isLtkRequest_of_ne hmeta)
      (fun h => absurd h hc) fun h => absurd h hr⟩

end Encryption

end TotemZmk
