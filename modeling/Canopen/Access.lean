/-!
# Access and mapping

How the SDO server and the PDOs may reach a value, and the attribute flags that say so in the
generated list.
-/

namespace Canopen

inductive Access where
  | rw
  | rwr
  | rww
  | ro
  | const
  | wo
deriving DecidableEq, Repr

namespace Access

def all : List Access := [rw, rwr, rww, ro, const, wo]

def name : Access → String
  | rw => "rw"
  | rwr => "rwr"
  | rww => "rww"
  | ro => "ro"
  | const => "const"
  | wo => "wo"

def ofName? (text : String) : Option Access :=
  all.find? (·.name == text)

theorem ofName?_name (access : Access) : ofName? access.name = some access := by
  cases access <;> decide

end Access

inductive Mapping where
  | no
  | optional
  | tpdo
  | rpdo
deriving DecidableEq, Repr

namespace Mapping

def all : List Mapping := [no, optional, tpdo, rpdo]

def name : Mapping → String
  | no => "no"
  | optional => "optional"
  | tpdo => "TPDO"
  | rpdo => "RPDO"

def ofName? (text : String) : Option Mapping :=
  all.find? (·.name == text)

theorem ofName?_name (mapping : Mapping) : ofName? mapping.name = some mapping := by
  cases mapping <;> decide

end Mapping

inductive Attribute where
  | sdoReadWrite
  | sdoRead
  | sdoWrite
  | trpdo
  | tpdo
  | rpdo
  | multibyte
deriving DecidableEq, Repr

namespace Attribute

def all : List Attribute :=
  [sdoReadWrite, sdoRead, sdoWrite, trpdo, tpdo, rpdo, multibyte]

def name : Attribute → String
  | sdoReadWrite => "ODA_SDO_RW"
  | sdoRead => "ODA_SDO_R"
  | sdoWrite => "ODA_SDO_W"
  | trpdo => "ODA_TRPDO"
  | tpdo => "ODA_TPDO"
  | rpdo => "ODA_RPDO"
  | multibyte => "ODA_MB"

def ofName? (text : String) : Option Attribute :=
  all.find? (·.name == text)

/-- The flags joined into one expression, `0` when there are none. -/
def expression : List Attribute → String
  | [] => "0"
  | flags => " | ".intercalate (flags.map name)

end Attribute

def Access.attribute : Access → Attribute
  | rw | rwr | rww => .sdoReadWrite
  | ro | const => .sdoRead
  | wo => .sdoWrite

def Mapping.attribute? : Mapping → Option Attribute
  | no => none
  | optional => some .trpdo
  | tpdo => some .tpdo
  | rpdo => some .rpdo

/-- The flags of a value: access first, then mapping, then the mark of a wide scalar. -/
def attributes (access : Option Access) (mapping : Option Mapping) (multibyte : Bool) :
    List Attribute :=
  (access.map Access.attribute).toList ++ (mapping.bind Mapping.attribute?).toList ++
    (if multibyte then [.multibyte] else [])

theorem multibyte_mem_attributes (access : Option Access) (mapping : Option Mapping)
    (multibyte : Bool) :
    .multibyte ∈ attributes access mapping multibyte ↔ multibyte = true := by
  cases multibyte <;> rcases access with _ | (_ | _ | _ | _ | _ | _) <;>
    rcases mapping with _ | (_ | _ | _ | _) <;> decide

end Canopen
