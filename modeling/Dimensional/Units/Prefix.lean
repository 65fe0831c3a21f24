import Dimensional.Unit

/-!
Decimal prefixes as dimensionless scale units, and the dimensionless unit `one`.
-/

namespace Dimensional
namespace Units

/-- The identity unit. -/
def one : UnitDef := .scaled .dimensionless 1.0
def pico : UnitDef := .scaled .dimensionless 1e-12
def nano : UnitDef := .scaled .dimensionless 1e-9
def micro : UnitDef := .scaled .dimensionless 1e-6
def milli : UnitDef := .scaled .dimensionless 1e-3
def centi : UnitDef := .scaled .dimensionless 1e-2
def deci : UnitDef := .scaled .dimensionless 1e-1
def hecto : UnitDef := .scaled .dimensionless 1e2
def kilo : UnitDef := .scaled .dimensionless 1e3
def mega : UnitDef := .scaled .dimensionless 1e6
def giga : UnitDef := .scaled .dimensionless 1e9

/-- The prefixes by their upper-case names, with `ONE`. -/
def prefixes : List (String × UnitDef) :=
  [("PICO", pico), ("NANO", nano), ("MICRO", micro), ("MILLI", milli), ("CENTI", centi),
   ("DECI", deci), ("HECTO", hecto), ("KILO", kilo), ("MEGA", mega), ("GIGA", giga), ("ONE", one)]

end Units
end Dimensional
