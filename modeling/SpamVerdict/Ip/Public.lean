import SpamVerdict.Ip.Address
set_option autoImplicit false

/-!
# Public addresses (SPEC_FULL §4.1)

An address is public if it is routable on the public internet.  Private, loopback, link-local,
shared (carrier-grade), multicast, unspecified and reserved addresses are not; an IPv4-mapped
address follows the rules of the IPv4 address it holds.

SPEC_FULL §4.1, step 4, prefers the first public address among the candidates, and falls back on the
first one of any kind (`preferPublic`).
-/

namespace SpamVerdict.Ip

/-- An IPv4 address outside the reserved ranges. -/
def V4.isPublic (x : V4) : Bool :=
  !(x.a == 0 || x.a == 10 || x.a == 127 || 224 ≤ x.a ||
    (x.a == 100 && 64 ≤ x.b && x.b < 128) ||
    (x.a == 169 && x.b == 254) ||
    (x.a == 172 && 16 ≤ x.b && x.b < 32) ||
    (x.a == 192 && x.b == 168))

/-- An IPv6 address outside the reserved ranges. -/
def V6.isPublic (x : V6) : Bool :=
  match x.mapped? with
  | some y => y.isPublic
  | none =>
    !((x.g0 == 0 && x.g1 == 0 && x.g2 == 0 && x.g3 == 0 && x.g4 == 0 && x.g5 == 0 && x.g6 == 0 &&
        x.g7 ≤ 1) ||
      (0xFC00 ≤ x.g0 && x.g0 < 0xFE00) ||
      (0xFE80 ≤ x.g0 && x.g0 < 0xFEC0) ||
      0xFF00 ≤ x.g0)

/-- An address outside the reserved ranges. -/
def Address.isPublic : Address → Bool
  | v4 x => x.isPublic
  | v6 x => x.isPublic

/-- The first public address, or else the first address. -/
def preferPublic (candidates : List Address) : Option Address :=
  (candidates.find? Address.isPublic).or candidates.head?

end SpamVerdict.Ip
