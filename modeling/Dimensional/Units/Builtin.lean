import Dimensional.Units.Prefix

/-!
The built-in units, in six groups: length, mass, time, temperature, angular and mechanics.
Each is defined from the ones before it by the composition of scale units, so that a factor
such as that of `km_per_h` is computed (`1000 / 3600`) and not copied. The table lists them in
that order, each with its literal symbol; the aliases give other spellings of some of them.
-/

namespace Dimensional
namespace Units

/-- Dimensions of the base quantities and of a few derived ones. -/
def lengthDim : Exponents := ⟨1, 0, 0, 0, 0⟩
def massDim : Exponents := ⟨0, 1, 0, 0, 0⟩
def timeDim : Exponents := ⟨0, 0, 1, 0, 0⟩
def temperatureDim : Exponents := ⟨0, 0, 0, 1, 0⟩
def angleDim : Exponents := ⟨0, 0, 0, 0, 1⟩

/-- The double nearest to π. -/
def pi : Double := 3.141592653589793
/-- The double nearest to 2π. -/
def tau : Double := 6.283185307179586

/-- The speed of light in metres per second. -/
def speedOfLight : Double := 299792458.0
/-- The Julian year in seconds. -/
def julianYear : Double := 365.25 * 86400.0

def meter : UnitDef := .scaled lengthDim 1.0
def kilometer : UnitDef := kilo.times meter
def centimeter : UnitDef := centi.times meter
def millimeter : UnitDef := milli.times meter
def micrometer : UnitDef := micro.times meter
def nanometer : UnitDef := nano.times meter
def inch : UnitDef := .scaled lengthDim 0.0254
def foot : UnitDef := inch.scaledBy 12.0
def yard : UnitDef := foot.scaledBy 3.0
def mile : UnitDef := yard.scaledBy 1760.0
def nauticalMile : UnitDef := .scaled lengthDim 1852.0
def astronomicalUnit : UnitDef := .scaled lengthDim 149597870700.0
def lightYear : UnitDef := .scaled lengthDim (speedOfLight * julianYear)
def parsec : UnitDef := astronomicalUnit.scaledBy (648000.0 / pi)
def squareMeter : UnitDef := meter.squared
def squareKilometer : UnitDef := kilometer.squared
def hectare : UnitDef := .scaled ⟨2, 0, 0, 0, 0⟩ 1e4
def cubicMeter : UnitDef := meter.cubed
def liter : UnitDef := .scaled ⟨3, 0, 0, 0, 0⟩ 1e-3
def milliliter : UnitDef := milli.times liter

def kilogram : UnitDef := .scaled massDim 1.0
def gram : UnitDef := .scaled massDim 1e-3
def milligram : UnitDef := milli.times gram
def tonne : UnitDef := kilo.times kilogram
def pound : UnitDef := .scaled massDim 0.45359237
def ounce : UnitDef := pound.scaledBy (1.0 / 16.0)

def second : UnitDef := .scaled timeDim 1.0
def millisecond : UnitDef := milli.times second
def microsecond : UnitDef := micro.times second
def nanosecond : UnitDef := nano.times second
def minute : UnitDef := second.scaledBy 60.0
def hour : UnitDef := minute.scaledBy 60.0
def day : UnitDef := hour.scaledBy 24.0
def week : UnitDef := day.scaledBy 7.0
def year : UnitDef := day.scaledBy 365.25

def kelvin : UnitDef := .scaled temperatureDim 1.0
def celsius : UnitDef := .affine temperatureDim 273.15 1.0
def fahrenheit : UnitDef := .affine temperatureDim 459.67 (5.0 / 9.0)
def rankine : UnitDef := .scaled temperatureDim (5.0 / 9.0)

def radian : UnitDef := .scaled angleDim 1.0
def milliradian : UnitDef := milli.times radian
def degree : UnitDef := .scaled angleDim (pi / 180.0)
def arcminute : UnitDef := degree.scaledBy (1.0 / 60.0)
def arcsecond : UnitDef := arcminute.scaledBy (1.0 / 60.0)
def revolution : UnitDef := .scaled angleDim tau

def metersPerSecond : UnitDef := meter.per second
def kilometersPerHour : UnitDef := kilometer.per hour
def milesPerHour : UnitDef := mile.per hour
def knot : UnitDef := nauticalMile.per hour
def mach : UnitDef := metersPerSecond.scaledBy 330.0
def metersPerSecondSquared : UnitDef := metersPerSecond.per second
def standardGravity : UnitDef := metersPerSecondSquared.scaledBy 9.80665
def newton : UnitDef := kilogram.times metersPerSecondSquared
def kilonewton : UnitDef := kilo.times newton
def joule : UnitDef := newton.times meter
def kilojoule : UnitDef := kilo.times joule
def calorie : UnitDef := joule.scaledBy 4.184
def kilocalorie : UnitDef := kilo.times calorie
def watt : UnitDef := joule.per second
def kilowatt : UnitDef := kilo.times watt
def kilowattHour : UnitDef := kilowatt.times hour
def pascal : UnitDef := newton.per meter.squared
def kilopascal : UnitDef := kilo.times pascal
def bar : UnitDef := pascal.scaledBy 1e5
def atmosphere : UnitDef := pascal.scaledBy 101325.0
def hertz : UnitDef := second.inverse
def kilohertz : UnitDef := kilo.times hertz
def radiansPerSecond : UnitDef := radian.per second
def revolutionsPerMinute : UnitDef := (radian.scaledBy tau).per minute
def kilogramsPerCubicMeter : UnitDef := kilogram.per meter.cubed

/-- A built-in unit: its group, its literal symbol and the unit. -/
structure Entry where
  group : String
  symbol : String
  unit : UnitDef

/-- The built-in units, group by group. -/
def entries : List Entry :=
  (["m", "km", "cm", "mm", "um", "nm", "inch", "ft", "yd", "mi", "nmi", "au", "ly", "pc", "m2",
    "km2", "ha", "m3", "L", "mL"].zip
    [meter, kilometer, centimeter, millimeter, micrometer, nanometer, inch, foot, yard, mile,
     nauticalMile, astronomicalUnit, lightYear, parsec, squareMeter, squareKilometer, hectare,
     cubicMeter, liter, milliliter]).map (fun p => ⟨"length", p.1, p.2⟩) ++
  (["kg", "g", "mg", "t", "lb", "oz"].zip
    [kilogram, gram, milligram, tonne, pound, ounce]).map (fun p => ⟨"mass", p.1, p.2⟩) ++
  (["s", "ms", "us", "ns", "min", "h", "d", "wk", "yr"].zip
    [second, millisecond, microsecond, nanosecond, minute, hour, day, week, year]).map
    (fun p => ⟨"time", p.1, p.2⟩) ++
  (["K", "degC", "degF", "degR"].zip [kelvin, celsius, fahrenheit, rankine]).map
    (fun p => ⟨"temperature", p.1, p.2⟩) ++
  (["rad", "mrad", "deg", "arcmin", "arcsec", "rev"].zip
    [radian, milliradian, degree, arcminute, arcsecond, revolution]).map
    (fun p => ⟨"angular", p.1, p.2⟩) ++
  (["m_per_s", "km_per_h", "mph", "kn", "Mach", "m_per_s2", "gn", "N", "kN", "J", "kJ", "cal",
    "kcal", "W", "kW", "kWh", "Pa", "kPa", "bar", "atm", "Hz", "kHz", "rad_per_s", "rpm",
    "kg_per_m3"].zip
    [metersPerSecond, kilometersPerHour, milesPerHour, knot, mach, metersPerSecondSquared,
     standardGravity, newton, kilonewton, joule, kilojoule, calorie, kilocalorie, watt, kilowatt,
     kilowattHour, pascal, kilopascal, bar, atmosphere, hertz, kilohertz, radiansPerSecond,
     revolutionsPerMinute, kilogramsPerCubicMeter]).map (fun p => ⟨"mechanics", p.1, p.2⟩)

/-- Other spellings of built-in units: the alias and the literal symbol it stands for. -/
def aliases : List (String × String) :=
  [("in", "inch"), ("µm", "um"), ("μm", "um"), ("µs", "us"), ("μs", "us"), ("l", "L"),
   ("ml", "mL"), ("°C", "degC"), ("°F", "degF"), ("°R", "degR"), ("°", "deg"),
   ("kph", "km_per_h"), ("kt", "kn")]

/-- The built-in unit with the given literal symbol. -/
def entry? (symbol : String) : Option Entry := entries.find? (·.symbol == symbol)

end Units
end Dimensional
