import RadioGossip.Bytes

/-!
# Internet addresses

An address is of one of two families: four octets, or eight groups of sixteen bits. On the wire
both are octets, the most significant first.
-/

namespace RadioGossip

/-- An internet address. -/
inductive IpAddress where
  | v4 (a b c d : UInt8)
  | v6 (a b c d e f g h : UInt16)
  deriving DecidableEq, Repr

namespace IpAddress

/-- The two octets of a group, the high one first. -/
def groupOctets (group : UInt16) : Bytes := [(group >>> 8).toUInt8, group.toUInt8]

/-- The group of two octets. -/
def groupOf (high low : UInt8) : UInt16 := high.toUInt16 <<< 8 ||| low.toUInt16

/-- The octets of an address. -/
def octets : IpAddress → Bytes
  | v4 a b c d => [a, b, c, d]
  | v6 a b c d e f g h => [a, b, c, d, e, f, g, h].flatMap groupOctets

/-- The address of four octets. -/
def ofV4Octets? : Bytes → Option IpAddress
  | [a, b, c, d] => some (v4 a b c d)
  | _ => none

/-- The address of sixteen octets. -/
def ofV6Octets? : Bytes → Option IpAddress
  | [a, a', b, b', c, c', d, d', e, e', f, f', g, g', h, h'] =>
    some (v6 (groupOf a a') (groupOf b b') (groupOf c c') (groupOf d d')
      (groupOf e e') (groupOf f f') (groupOf g g') (groupOf h h'))
  | _ => none

theorem ofV4Octets?_octets (a b c d : UInt8) :
    ofV4Octets? (octets (v4 a b c d)) = some (v4 a b c d) := rfl

theorem groupOf_groupOctets (group : UInt16) :
    groupOf (group >>> 8).toUInt8 group.toUInt8 = group := by
  apply UInt16.toBitVec_inj.mp
  simp only [groupOf, UInt16.toBitVec_or, UInt16.toBitVec_shiftLeft, UInt8.toBitVec_toUInt16,
    UInt16.toBitVec_toUInt8, UInt16.toBitVec_shiftRight]
  ext i hi
  simp
  grind

theorem ofV6Octets?_octets (a b c d e f g h : UInt16) :
    ofV6Octets? (octets (v6 a b c d e f g h)) = some (v6 a b c d e f g h) := by
  simp [octets, ofV6Octets?, groupOctets, groupOf_groupOctets]

end IpAddress

end RadioGossip
