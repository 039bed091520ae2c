import Mathlib.Data.Option.Basic

/-!
# Addresses and networks

IPv4 and IPv6 addresses as `netaddr` has them, where the version is a part of the address, and
as the `net` package of Go has them, where an IPv4 address is the IPv6 address mapped to it.
-/

namespace KuryrKubernetes.Net

/-! ## Addresses with a version -/

/-- `netaddr.IPAddress`. -/
inductive IpAddress where
  | v4 (value : BitVec 32)
  | v6 (value : BitVec 128)
  deriving DecidableEq

/-- The number of bits. -/
def IpAddress.width : IpAddress → Nat
  | .v4 _ => 32
  | .v6 _ => 128

/-- `ip.version`. -/
def IpAddress.version : IpAddress → Nat
  | .v4 _ => 4
  | .v6 _ => 6

/-- An address with the length of a prefix, as in `10.0.0.5/24`. -/
structure Prefixed where
  ip : IpAddress
  prefixlen : Nat
  deriving DecidableEq

/-- `netaddr.IPNetwork`, whose prefix is not longer than its address. -/
structure IpNetwork extends Prefixed where
  fits : prefixlen ≤ ip.width
  deriving DecidableEq

/-- `value` without its last bits, of which `ones` are kept. -/
def masked {width : Nat} (value : BitVec width) (ones : Nat) : BitVec width :=
  (value >>> (width - ones)) <<< (width - ones)

/-- The address of the network itself. -/
def Prefixed.network (prefixed : Prefixed) : IpAddress :=
  match prefixed.ip with
  | .v4 value => .v4 (masked value prefixed.prefixlen)
  | .v6 value => .v6 (masked value prefixed.prefixlen)

/-! ## IPv4 addresses among the IPv6 addresses -/

/-- `v4InV6Prefix`. -/
def v4InV6Prefix : BitVec 96 := 0xffff#96

/-- The IPv6 address an IPv4 address is mapped to. -/
def v4InV6 (value : BitVec 32) : BitVec 128 :=
  v4InV6Prefix ++ value

/-- Whether an IPv6 address is one of an IPv4 address. -/
def IsMapped (value : BitVec 128) : Prop :=
  value.extractLsb' 32 96 = v4InV6Prefix

instance (value : BitVec 128) : Decidable (IsMapped value) :=
  inferInstanceAs (Decidable (value.extractLsb' 32 96 = v4InV6Prefix))

/-- Whether an address is an IPv6 address mapped from an IPv4 address. -/
def IpAddress.Mapped : IpAddress → Prop
  | .v4 _ => False
  | .v6 value => IsMapped value

instance (ip : IpAddress) : Decidable ip.Mapped :=
  match ip with
  | .v4 _ => inferInstanceAs (Decidable False)
  | .v6 value => inferInstanceAs (Decidable (IsMapped value))

theorem isMapped_v4InV6 (value : BitVec 32) : IsMapped (v4InV6 value) :=
  BitVec.extractLsb'_append_eq_left

/-! ## Addresses of the `net` package -/

/-- `net.IP`: four or sixteen bytes. -/
inductive GoIp where
  | four (value : BitVec 32)
  | sixteen (value : BitVec 128)
  deriving DecidableEq

/-- `IP.To4`. -/
def GoIp.to4 : GoIp → Option (BitVec 32)
  | .four value => some value
  | .sixteen value => if IsMapped value then some (value.extractLsb' 0 32) else none

/-- What `IP.String` writes: an IPv4 address whenever there is one. -/
def GoIp.string : GoIp → IpAddress
  | .four value => .v4 value
  | .sixteen value =>
      match (GoIp.sixteen value).to4 with
      | some mapped => .v4 mapped
      | none => .v6 value

/-- `net.ParseIP` of the text of an address: sixteen bytes in any case. -/
def parseIp : IpAddress → GoIp
  | .v4 value => .sixteen (v4InV6 value)
  | .v6 value => .sixteen value

/-- A mask of ones followed by zeros, of four or of sixteen bytes. -/
inductive GoMask where
  | four (ones : Nat)
  | sixteen (ones : Nat)
  deriving DecidableEq

/-- The first result of `IPMask.Size`. -/
def GoMask.size : GoMask → Nat
  | .four ones => ones
  | .sixteen ones => ones

/-- `IP.Mask`, which is `nil` where the lengths do not go together. -/
def GoIp.mask : GoIp → GoMask → Option GoIp
  | .four value, .four ones => some (.four (masked value ones))
  | .four value, .sixteen ones =>
      if 96 ≤ ones then some (.four (masked value (ones - 96))) else none
  | .sixteen value, .four ones =>
      (GoIp.sixteen value).to4.map fun mapped => .four (masked mapped ones)
  | .sixteen value, .sixteen ones => some (.sixteen (masked value ones))

/-- `net.IPNet`, whose address may be `nil`. -/
structure GoNet where
  ip : Option GoIp
  mask : GoMask
  deriving DecidableEq

/-- What `IPNet.String` writes, where it is not `<nil>`. -/
def GoNet.string (net : GoNet) : Option Prefixed :=
  match net.ip with
  | none => none
  | some ip =>
      match ip.to4, ip, net.mask with
      | some value, _, .four ones => some ⟨.v4 value, ones⟩
      | some value, _, .sixteen ones => some ⟨.v4 value, ones - 96⟩
      | none, .sixteen value, .sixteen ones => some ⟨.v6 value, ones⟩
      | none, _, _ => none

/-- `net.ParseCIDR` of the text of an address and a length: the address and its network. -/
def parseCidr (text : Prefixed) : Option (GoIp × GoNet) :=
  if text.prefixlen ≤ text.ip.width then
    let ip := parseIp text.ip
    let mask :=
      match text.ip with
      | .v4 _ => GoMask.four text.prefixlen
      | .v6 _ => GoMask.sixteen text.prefixlen
    some (ip, ⟨ip.mask mask, mask⟩)
  else
    none

/-! ## What is read and written again -/

@[simp]
theorem to4_v4InV6 (value : BitVec 32) : (GoIp.sixteen (v4InV6 value)).to4 = some value := by
  rw [GoIp.to4, if_pos (isMapped_v4InV6 value)]
  exact congrArg some BitVec.extractLsb'_append_eq_right

theorem to4_parseIp_eq_none_iff (ip : IpAddress) :
    (parseIp ip).to4 = none ↔ ip.version = 6 ∧ ¬ip.Mapped := by
  cases ip with
  | v4 value => simp [parseIp, IpAddress.version]
  | v6 value => simp [parseIp, IpAddress.version, IpAddress.Mapped, GoIp.to4]

/-- An address is written as it was read unless it is a mapped one. -/
@[simp]
theorem string_parseIp_iff (ip : IpAddress) : (parseIp ip).string = ip ↔ ¬ip.Mapped := by
  cases ip with
  | v4 value => simp [parseIp, GoIp.string, IpAddress.Mapped]
  | v6 value =>
      by_cases mapped : IsMapped value
      · simp [parseIp, GoIp.string, GoIp.to4, IpAddress.Mapped, mapped]
      · simp [parseIp, GoIp.string, GoIp.to4, IpAddress.Mapped, mapped]

theorem parseCidr_of_fits {text : Prefixed} (fits : text.prefixlen ≤ text.ip.width) :
    ∃ net, parseCidr text = some (parseIp text.ip, net) ∧ net.mask.size = text.prefixlen := by
  rw [parseCidr, if_pos fits]
  rcases text with ⟨ip, prefixlen⟩
  cases ip with
  | v4 value => exact ⟨_, rfl, rfl⟩
  | v6 value => exact ⟨_, rfl, rfl⟩

theorem string_of_isMapped {value : BitVec 128} (mapped : IsMapped value) (ones : Nat) :
    GoNet.string ⟨some (.sixteen value), .sixteen ones⟩ =
      some ⟨.v4 (value.extractLsb' 0 32), ones - 96⟩ := by
  simp [GoNet.string, GoIp.to4, mapped]

theorem string_of_not_isMapped {value : BitVec 128} (plain : ¬IsMapped value) (ones : Nat) :
    GoNet.string ⟨some (.sixteen value), .sixteen ones⟩ = some ⟨.v6 value, ones⟩ := by
  simp [GoNet.string, GoIp.to4, plain]

/-- A network is written as it was read where the address is that of the network itself. -/
theorem string_network_iff {text : Prefixed} {ip : GoIp} {net : GoNet}
    (parsed : parseCidr text = some (ip, net)) :
    net.string = some text ↔ text.network = text.ip ∧ ¬text.ip.Mapped := by
  rcases text with ⟨address, prefixlen⟩
  rw [parseCidr] at parsed
  split at parsed
  · cases parsed
    cases address with
    | v4 value =>
        simp only [parseIp, GoIp.mask, to4_v4InV6, Option.map_some]
        simp [GoNet.string, GoIp.to4, Prefixed.network, IpAddress.Mapped]
    | v6 value =>
        simp only [parseIp, GoIp.mask, Prefixed.network, IpAddress.Mapped]
        by_cases mapped : IsMapped (masked value prefixlen)
        · rw [string_of_isMapped mapped]
          constructor
          · simp
          · rintro ⟨same, plain⟩
            rw [IpAddress.v6.inj same] at mapped
            exact absurd mapped plain
        · rw [string_of_not_isMapped mapped]
          constructor
          · intro same
            have kept : masked value prefixlen = value := by simpa using same
            rw [kept] at mapped ⊢
            exact ⟨rfl, mapped⟩
          · rintro ⟨same, _⟩
            rw [IpAddress.v6.inj same]
  · cases parsed

/-- `ParseCIDR` of the `types` package, which keeps the bits after the prefix. -/
def parseAddress (text : Prefixed) : Option GoNet :=
  (parseCidr text).map fun (ip, net) => { net with ip := some ip }

/-- The text of an address that is not a mapped one is read and written as it is. -/
theorem string_of_parseAddress {text : Prefixed} {net : GoNet} (plain : ¬text.ip.Mapped)
    (parsed : parseAddress text = some net) : net.string = some text := by
  rcases text with ⟨address, prefixlen⟩
  rcases Option.map_eq_some_iff.mp parsed with ⟨⟨ip, network⟩, cidr, same⟩
  subst same
  rw [parseCidr] at cidr
  split at cidr
  · cases cidr
    cases address with
    | v4 value => simp [GoNet.string, parseIp]
    | v6 value => exact string_of_not_isMapped plain prefixlen
  · cases cidr

/-- Only a text whose prefix fits its address is read. -/
theorem parseAddress_eq_none_iff {text : Prefixed} :
    parseAddress text = none ↔ text.ip.width < text.prefixlen := by
  simp [parseAddress, parseCidr]

end KuryrKubernetes.Net
