import DeviceConsole.Net.Ipv6
import DeviceConsole.OrderedMap

/-!
# `Net.IpAddress` — addresses of both versions

An address is read as IPv4 if its text has that form, else as IPv6, and nothing may follow. IPv4 addresses come
before IPv6 addresses, and within a version the order is numeric.

## Contents

* `IpAddress` — the addresses;
* `IpAddress.toText`, `IpAddress.ofText?` — writing and reading;
* `IpAddress.orderKey` — the numbers that give the order.
-/

namespace DeviceConsole.Net

/-- An IPv4 or IPv6 address. -/
inductive IpAddress where
  | v4 (address : Ipv4)
  | v6 (address : Ipv6)
  deriving DecidableEq, Repr

namespace IpAddress

/-- The text of an address. -/
def write : IpAddress → List Char
  | .v4 address => address.write
  | .v6 address => address.write

/-- The text of an address. -/
def toText (address : IpAddress) : String := String.ofList address.write

/-- Reads a whole text as an address. -/
def read? (text : List Char) : Option IpAddress :=
  let found := match Ipv4.readFront? text with
    | some (address, rest) => some (IpAddress.v4 address, rest)
    | none => (Ipv6.readFront? text).map fun (address, rest) => (IpAddress.v6 address, rest)
  match found with
  | some (address, []) => some address
  | _ => none

/-- Reads a whole text as an address. -/
def ofText? (text : String) : Option IpAddress := read? text.toList

/-- The version, then the octets or groups. -/
def orderKey : IpAddress → List Nat
  | .v4 address => 4 :: address.octets
  | .v6 address => 6 :: address.groups.map UInt16.toNat

theorem orderKey_injective {x y : IpAddress} (h : x.orderKey = y.orderKey) : x = y := by
  cases x with
  | v4 x =>
    cases y with
    | v4 y =>
      obtain ⟨xa, xb, xc, xd⟩ := x
      obtain ⟨ya, yb, yc, yd⟩ := y
      simp only [orderKey, Ipv4.octets, List.cons.injEq, and_true, true_and, UInt8.toNat_inj] at h
      obtain ⟨ha, hb, hc, hd⟩ := h
      subst ha; subst hb; subst hc; subst hd
      rfl
    | v6 y => simp [orderKey] at h
  | v6 x =>
    cases y with
    | v4 y => simp [orderKey] at h
    | v6 y =>
      obtain ⟨xs, _⟩ := x
      obtain ⟨ys, _⟩ := y
      simp only [orderKey, List.cons.injEq, true_and] at h
      have groups : xs = ys := List.map_inj_right (fun a b e => UInt16.toNat_inj.mp e) |>.mp h
      subst groups
      rfl

instance : OrderKey IpAddress := ⟨orderKey, orderKey_injective⟩

end IpAddress

end DeviceConsole.Net
