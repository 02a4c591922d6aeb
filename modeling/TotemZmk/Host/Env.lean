/-
What the host modules (`exclusive_host.c`, `reconnect_watch.c`) ask of the
Bluetooth stack and of ZMK, and the calls they make on them.

* `HostEnv`: the answers, as they are while one handler runs.
* `HostAct`: a call, in the order the handler makes them.
-/
import TotemZmk.Journal.Boot
import TotemZmk.Host.BondHeal

namespace TotemZmk

/-- `enum zmk_transport` -/
inductive ZmkTransport where
  | none
  | usb
  | ble
deriving DecidableEq, Repr

/-- `info.role` -/
inductive BtConnRole where
  | central
  | peripheral
deriving DecidableEq, Repr

/-- A connection: the results of `bt_conn_get_info`, `zmk_ble_profile_index`,
`bt_conn_get_security` and `bt_conn_disconnect` on it. -/
structure HostConn where
  infoErr : Int
  role : BtConnRole
  connected : Bool
  profileIndex : Int
  security : Nat
  disconnectErr : Int
deriving DecidableEq, Repr

/-- `zmkUsbIsPowered` is there where `CONFIG_ZMK_USB` is. -/
structure HostEnv where
  transport : ZmkTransport
  zmkUsbIsPowered : Option Bool
  hostAdvSuppressed : Bool
  activeProfileIndex : Nat
  activeProfileIsOpen : Bool
  activeProfileIsConnected : Bool
  conns : List HostConn
deriving DecidableEq, Repr

/-- `totem_hid_is_usb` -/
def totemHidIsUsb (env : HostEnv) : Bool := env.transport = .usb

/-- `totem_usb_cable_up` -/
def totemUsbCableUp (env : HostEnv) : Bool :=
  match env.zmkUsbIsPowered with
  | .some powered => powered
  | .none => false

/-- The calls of one handler that others can see. -/
inductive HostAct where
  | record (args : RecordArgs)
  | advBoostRearm
  | advKick
  | disconnect (conn : HostConn) (reason : UInt8)
deriving DecidableEq, Repr

/-- `BT_HCI_ERR_REMOTE_USER_TERM_CONN` -/
def btHciErrRemoteUserTermConn : UInt8 := 0x13

/-! ## `enum totem_host_evt` -/

def totemHevtConn : UInt8 := 2
def totemHevtConnFail : UInt8 := 3
def totemHevtSecOk : UInt8 := 4
def totemHevtSecFail : UInt8 := 5
def totemHevtBgEvict : UInt8 := 6
def totemHevtActiveDownArm : UInt8 := 7
def totemHevtWatchArm : UInt8 := 8
def totemHevtWatchStep : UInt8 := 9
def totemHevtProfileChanged : UInt8 := 10
def totemHevtIdentity : UInt8 := 11
def totemHevtClassASuspect : UInt8 := 12

/-- A record about the active profile itself. -/
def HostEnv.activeRecord (env : HostEnv) (type reason thrashWin extra : UInt8) : RecordArgs :=
  ⟨type, Int8.ofNat env.activeProfileIndex, Int8.ofNat env.activeProfileIndex, reason, thrashWin,
    extra⟩

/-- The disconnects among a handler's calls. -/
def disconnects : List HostAct → List HostConn
  | [] => []
  | .disconnect conn _ :: acts => conn :: disconnects acts
  | .record _ :: acts | .advBoostRearm :: acts | .advKick :: acts => disconnects acts

theorem disconnects_append (acts acts' : List HostAct) :
    disconnects (acts ++ acts') = disconnects acts ++ disconnects acts' := by
  induction acts with
  | nil => rfl
  | cons act acts ih => cases act <;> simp [disconnects, ih]

end TotemZmk
