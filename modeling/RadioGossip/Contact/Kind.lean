/-!
# Kinds of stations and families of addresses

Both travel as one tag byte. A tag without a name is kept as it is, so that a record passes
unchanged through a station that does not know its kind. A kind is **canonical** when it does not
spell a named tag as an unnamed one; reading a tag gives the canonical kind with that byte.
-/

namespace RadioGossip

/-- The kind of a station. -/
inductive StationKind where
  /-- A mobile user. -/
  | user
  /-- A fixed station. -/
  | fixed
  /-- A kind known by its tag alone. -/
  | other (tag : UInt8)
  deriving DecidableEq, Repr

namespace StationKind

/-- The tag of a kind on the wire. -/
def toByte : StationKind → UInt8
  | user => 0
  | fixed => 1
  | other tag => tag

/-- The kind that a tag names. -/
def ofByte (tag : UInt8) : StationKind :=
  if tag = 0 then user else if tag = 1 then fixed else other tag

/-- The kind as it comes back from the wire. -/
def canonical (kind : StationKind) : StationKind := ofByte kind.toByte

theorem toByte_ofByte (tag : UInt8) : (ofByte tag).toByte = tag := by
  unfold ofByte
  split
  · simp_all [toByte]
  · split <;> simp_all [toByte]

end StationKind

/-- The family of an address record. -/
inductive IpFamily where
  | v4
  | v6
  /-- A family known by its tag alone. -/
  | other (tag : UInt8)
  deriving DecidableEq, Repr

namespace IpFamily

/-- The tag of a family on the wire. -/
def toByte : IpFamily → UInt8
  | v4 => 0
  | v6 => 1
  | other tag => tag

/-- The family that a tag names. -/
def ofByte (tag : UInt8) : IpFamily :=
  if tag = 0 then v4 else if tag = 1 then v6 else other tag

/-- The family as it comes back from the wire. -/
def canonical (family : IpFamily) : IpFamily := ofByte family.toByte

/-- The family in words. -/
def name : IpFamily → String
  | v4 => "V4"
  | v6 => "V6"
  | other tag => s!"Other({tag})"

theorem toByte_ofByte (tag : UInt8) : (ofByte tag).toByte = tag := by
  unfold ofByte
  split
  · simp_all [toByte]
  · split <;> simp_all [toByte]

end IpFamily

end RadioGossip
