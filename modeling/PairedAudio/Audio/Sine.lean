import PairedAudio.Audio.Binary32

/-! The sine of a binary32 number below 120 in size. The argument is reduced by multiples of a
quarter turn in double precision; a polynomial for the sine or the cosine on the remaining eighth
turn gives a value whose rounding to single precision is off by less than one unit. -/

set_option autoImplicit false

namespace PairedAudio.Audio.Sine

def quartersScaled : Float := Float.ofBits 0x41645f306dc9c883

def quarter : Float := Float.ofBits 0x3ff921fb54442d18

def sinePolynomial (x square : Float) : Float :=
  let s1 := Float.ofBits 0xbfc555545995a603
  let s2 := Float.ofBits 0x3f81107605230bc4
  let s3 := Float.ofBits 0xbf2994eb3774cf24
  let cube := x * square
  x + cube * s1 + cube * square * (s2 + square * s3)

def cosinePolynomial (square : Float) : Float :=
  let c1 := Float.ofBits 0xbfdffffffd0c621c
  let c2 := Float.ofBits 0x3fa55553e1068f19
  let c3 := Float.ofBits 0xbf56c087e89a359d
  let c4 := Float.ofBits 0x3ef99343027bf8c3
  let fourth := square * square
  1 + square * c1 + fourth * c2 + fourth * square * (c3 + square * c4)

def quarters (x : Float) : Int := ((x * quartersScaled).toInt32.toInt + 0x800000) / 0x1000000

/-- The sine of a number by the quarter that it lies in. -/
def ofFloat (x : Float) : Float :=
  let n := quarters x
  let rest := x - Float.ofInt n * quarter
  let square := rest * rest
  if n % 4 = 0 then sinePolynomial rest square
  else if n % 4 = 1 then cosinePolynomial square
  else if n % 4 = 2 then sinePolynomial (-rest) square
  else -cosinePolynomial square

def sine (x : Binary32) : Binary32 :=
  if x.isNaN then x.quiet
  else if x.isInfinite then .invalid
  else
    let unsigned := x.bits &&& 0x7fffffff
    let y := (Float32.ofBits x.bits).toFloat
    if unsigned < 0x39800000 then x
    else if unsigned < 0x3f400000 then ⟨(sinePolynomial y (y * y)).toFloat32.toBits⟩
    else ⟨(ofFloat y).toFloat32.toBits⟩

end PairedAudio.Audio.Sine
