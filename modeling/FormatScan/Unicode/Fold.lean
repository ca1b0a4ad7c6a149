import FormatScan.Unicode.RangeCode
/-!
Simple case folding: the sets of characters that differ in case alone.
-/

namespace FormatScan.Unicode

/-- The sets, each as the number of its members less two, the distance of its first member from
the first of the set before, and the gaps between its members. -/
def orbitCode : String :=
  "0C1v01v01v01v01v01v01v01v01v01v11vIFu01v01v01v01v01v01v01v11vIb01v01v01v01v01v01v01v1CrX" ++
    "6v0bv01v01v01v01v11vIC501v01v01v01v01v01v01v01v01v01v01v01v01v01v01v01v01v02v01v01v01v01" ++
    "v01v01v01HNu0B0Do01002002002002002002002002002002002002002002002002002002002002002002002" ++
    "0040020020030020020020020020020020030020020020020020020020020020020020020020020020020020" ++
    "02002002002002003002002003G201Gh01002002Gd01002Gc01Gc01003Ce01G901Ga01002Gc01Ge01D001Gi0" ++
    "1Gg01002F201BJS001Gi01Gk01E101Gl01002002002Gp01002Gp03002Gp01002Go01Go01002002Gq01004003" ++
    "Bn15001300130003002002002002002002002003002002002002002002002002013000300400200200200200" ++
    "2002002002002002002002002002002002002002002004002002002002002002002002008KRa01003KR701KR" ++
    "u01KRu01003C401C601002002002002002KQu01KQr01KQt0aBJKe05BJKa03BJL601BJJ701BJK304BJK301KPm" ++
    "01BJK005KPs0cKP605BJK205BJJ90mBJIk01BJIh2F7CjvHA40Bb002004005E101E101E102Dj07B502B401B40" ++
    "1B402Bv02Bu01Bu01HC201v11vt01v01v11vBv01v01v21voB212vBl01v02v01v01v11vl11vBf12u001v01v11" ++
    "ve01v01v11vHKs01v01v05HBi0v709002002002002002002002002002002002004605003006Cf01Cf01Cf01C" ++
    "f01Cf01Cf01Cf01Cf01Cf01Cf01Cf01Cf01Cf01Cf01Cf01Cf01v01v11vGCd01v11vGCc01v01v01v01v01v01v" ++
    "01v01v01v11vGC301v01v11vGC121vGC1001v01v01v01v01v01v01v11vGBr01v01v01v01v01v0Bh0120GB302" ++
    "00200200200200200200200200200200200200200200a0020020020020020020020020020020020020020020" ++
    "02002002002002002002002002002002002002e0100200200200200200200300200200200200200200200200" ++
    "2002002002002002002002002002002002002002002002002002002002002002002002002002002002002002" ++
    "002002002002002002002002002003Bf01Bf01Bf01Bf01Bf01Bf01Bf01Bf01Bf01Bf01Bf01Bf01Bf01Bf01Bf" ++
    "01Bf01Bf01Bf01Bf01Bf01Bf01Bf01Bf01Bf01Bf01Bf01Bf01Bf01Bf01Bf01Bf01Bf01Bf01Bf01Bf01Bf01Bf" ++
    "01Bf0C!aHCv01HCv01HCv01HCv01HCv01HCv01HCv01HCv01HCv01HCv01HCv01HCv01HCv01HCv01HCv01HCv01" ++
    "HCv01HCv01HCv01HCv01HCv01HCv01HCv01HCv01HCv01HCv01HCv01HCv01HCv01HCv01HCv01HCv01HCv01HCv" ++
    "01HCv01HCv01HCv01HCv02HCv06HCv03C%v01C%v01C%v01C%v01C%v01C%v01C%v01C%v01C%v01C%v01C%v01C" ++
    "%v01C%v01C%v01C%v01C%v01C%v01C%v01C%v01C%v01C%v01C%v01C%v01C%v01C%v01C%v01C%v01C%v01C%v0" ++
    "1C%v01C%v01C%v01C%v01C%v01C%v01C%v01C%v01C%v01C%v01C%v01C%v01C%v01C%v03C%v01C%v01C%v0V1B" ++
    "F&f01BF&f01BF&f01BF&f01BF&f01BF&f01BF&f01BF&f01BF&f01BF&f01BF&f01BF&f01BF&f01BF&f01BF&f0" ++
    "1BF&f01BF&f01BF&f01BF&f01BF&f01BF&f01BF&f01BF&f01BF&f01BF&f01BF&f01BF&f01BF&f01BF&f01BF&" ++
    "f01BF&f01BF&f01BF&f01BF&f01BF&f01BF&f01BF&f01BF&f01BF&f01BF&f01BF&f01BF&f01BF&f01BF&f01B" ++
    "F&f01BF&f01BF&f01BF&f01BF&f01BF&f01BF&f01BF&f01BF&f01BF&f01BF&f01BF&f01BF&f01BF&f01BF&f0" ++
    "1BF&f01BF&f01BF&f01BF&f01BF&f01BF&f01BF&f01BF&f01BF&f01BF&f01BF&f01BF&f01BF&f01BF&f01BF&" ++
    "f01BF&f01BF&f01BF&f01BF&f01BF&f01BF&f0170170170170170171CEjBCO100100HgBCQ304DX50hBCRn0Di" ++
    "0020020020020020020020020020020020020020020020020020020020020020020020020020020020020020" ++
    "020020020020020020020020020020020020020020020020020020120Bp02002002002002002002002002002" ++
    "00200200200200200200200200200200200200200200200200c0020020020020020020020020020020020020" ++
    "0200200200200200200200200200200200200200200200200200200200200200200200200200200200200200" ++
    "200200200200200200270170170170170170170170970170170170170170b701701701701701701701709701" ++
    "70170170170170170170970170170170170170c702702702709701701701701701701701709C901C901Cl01C" ++
    "l01Cl01Cl01D301D301Dv01Dv01Df01Df01Dt01Dt03701701701701701701701709701701701701701701701" ++
    "70970170170170170170170170970170280g80d70170f70170460e80Jvr0Bef01f01f01f01f01f01f01f01f0" ++
    "1f01f01f01f01f01f01f0k00Zjp01p01p01p01p01p01p01p01p01p01p01p01p01p01p01p01p01p01p01p01p0" ++
    "1p01p01p01p01p0BZhBf01Bf01Bf01Bf01Bf01Bf01Bf01Bf01Bf01Bf01Bf01Bf01Bf01Bf01Bf01Bf01Bf01Bf" ++
    "01Bf01Bf01Bf01Bf01Bf01Bf01Bf01Bf01Bf01Bf01Bf01Bf01Bf01Bf01Bf01Bf01Bf01Bf01Bf01Bf01Bf01Bf" ++
    "01Bf01Bf01Bf01Bf01Bf01Bf01Bf01Bf0Bh00700200200700300b00200200200200200200200200200200200" ++
    "2002002002002002002002002002002002002002002002002002002002002002002002002002002002002002" ++
    "00200200200200200200200200900200500&Ke00200200200200400200200200200200200200200200200200" ++
    "200200200200200k00200200200200200200200200200200200200200E800200200200200200200400200200" ++
    "200200200200200200200200200200200200200200200200200200200200200200200200200200200200b002" ++
    "003002002002002005005002002Bf0200200200200200200200200200200b$v0100200200200200200200200" ++
    "500200300400600200200r00UYg00BAsv01v01v01v01v01v01v01v01v01v01v01v01v01v01v01v01v01v01v0" ++
    "1v01v01v01v01v01v01v0BG6B701B701B701B701B701B701B701B701B701B701B701B701B701B701B701B701" ++
    "B701B701B701B701B701B701B701B701B701B701B701B701B701B701B701B701B701B701B701B701B701B701" ++
    "B701B70E9B701B701B701B701B701B701B701B701B701B701B701B701B701B701B701B701B701B701B701B70" ++
    "1B701B701B701B701B701B701B701B701B701B701B701B701B701B701B701B70EtB601B601B601B601B601B6" ++
    "01B601B601B601B601B602B601B601B601B601B601B601B601B601B601B601B601B601B601B601B602B601B6" ++
    "01B601B601B601B601B602B601B60BXbBv01Bv01Bv01Bv01Bv01Bv01Bv01Bv01Bv01Bv01Bv01Bv01Bv01Bv01" ++
    "Bv01Bv01Bv01Bv01Bv01Bv01Bv01Bv01Bv01Bv01Bv01Bv01Bv01Bv01Bv01Bv01Bv01Bv01Bv01Bv01Bv01Bv01" ++
    "Bv01Bv01Bv01Bv01Bv01Bv01Bv01Bv01Bv01Bv01Bv01Bv01Bv01Bv01Bv0Euv01v01v01v01v01v01v01v01v01" ++
    "v01v01v01v01v01v01v01v01v01v01v01v01v0CZrv01v01v01v01v01v01v01v01v01v01v01v01v01v01v01v0" ++
    "1v01v01v01v01v01v01v01v01v01v01v01v01v01v01v01v0VM1v01v01v01v01v01v01v01v01v01v01v01v01v" ++
    "01v01v01v01v01v01v01v01v01v01v01v01v01v01v01v01v01v01v01v0&V1B101B101B101B101B101B101B10" ++
    "1B101B101B101B101B101B101B101B101B101B101B101B101B101B101B101B101B101B101B101B101B101B10" ++
    "1B101B101B101B101B1"

def orbits (_ : Unit) : List (List Nat) :=
  go 0 (readNumbers orbitCode) orbitCode.length
where
  members (last : Nat) : Nat → List Nat → List Nat × List Nat
    | 0, code => ([], code)
    | n + 1, gap :: code =>
      let next := last + gap + 1
      let (more, code) := members next n code
      (next :: more, code)
    | _, [] => ([], [])
  go (first : Nat) (code : List Nat) : Nat → List (List Nat)
    | 0 => []
    | fuel + 1 =>
      match code with
      | extra :: step :: code =>
        let head := first + step
        let (more, code) := members head (extra + 1) code
        (head :: more) :: go head code fuel
      | _ => []

def Ranges.foldCase (ranges : Ranges) : Ranges :=
  ranges.union (((orbits ()).filter fun orbit => orbit.any ranges.contains).flatMap fun orbit =>
    orbit.map fun n => (n, n))

def hasOtherCase (c : Char) : Bool :=
  (orbits ()).any fun orbit => orbit.contains c.toNat

end FormatScan.Unicode
