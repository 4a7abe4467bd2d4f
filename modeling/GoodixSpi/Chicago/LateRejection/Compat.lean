import GoodixSpi.Chicago.LateRejection.Policy

/-! The literal translation of the late-rejection helper, for every template type. Names
are those of the translation; each definition is one top-level statement of its body and
gives what that statement adds to `bVar6`. Comparisons keep the source's constants, and a
test `A && (B || (A && C))` is kept as it stands. The last statement for type 10 is a
parameter: the other types jump over it. -/

namespace GoodixSpi.Chicago

def matchSignedSubtractOverflow (left right : Int32) : Bool :=
  let result : Int := left.toInt - right.toInt
  result < -0x80000000 || result > 0x7fffffff

/-- The values that outlive one statement. `param6` is `*param_6`. -/
structure CompatLocals where
  param2 : Vector Int32 26
  param3 : Int32
  param6 : Int32
  iVar1 : Int32
  iVar2 : Int32
  iVar3 : Int32
  iVar8 : Int32
  iVar12 : Int32
  iVar14 : Int32
  iVar17 : Int32
  iVar18 : Int32

/-- `LAB_18002d1f3`: falls into `LAB_18002d1f5`, which rejects, or leaves. -/
def lab18002d1f3 (bVar20 bVar19 : Bool) (iVar9 : Int32) : Bool :=
  !(!bVar19 && bVar20 == decide (iVar9 < 0))

def compatMaxAuxiliaryAbove4 : CompatLocals → Bool
  | ⟨param2, param3, _, iVar1, _, iVar3, iVar8, iVar12, _, iVar17, iVar18⟩ =>
    if 4 < iVar12 then
      let iVar7 := iVar8 * 100
      if iVar18 < 2 then
        let iVar9 := iVar17 * 0x5f
        if (iVar7 ≤ iVar17 * 0x5c || 0xd1 < iVar3 || 0xd1 < iVar1) &&
            (iVar7 ≤ iVar9 || 0xd1 < iVar3 || 0xdb < iVar1) &&
            (iVar7 < iVar9 || 0xd9 < iVar3 || 199 < iVar1) &&
            (iVar7 ≤ iVar9 ||
              (0xd3 < iVar3 || 0xd6 < iVar1) &&
                (iVar7 ≤ iVar9 || 199 < iVar3 || 0xe5 < iVar1)) then
          if iVar7 ≤ iVar17 * 0x57 || param3 != 10 || param2[0] > 9 || param2[1] > 10 ||
              0xd3 < iVar3 || 0xcc < iVar1 || param2[0xb] > 0xe || param2[10] > 0x22 ||
              param2[9] > 0x59 || param2[0x17] + param2[0x15] > 0x40 then
            false
          else
            let iVar7 := param2[0x15]
            lab18002d1f3 (matchSignedSubtractOverflow iVar7 0x22) (iVar7 == 0x22) (iVar7 - 0x22)
        else true
      else
        let lab18002cf9f := iVar3 < 0xe1 && param2[0] < 7 && iVar1 < 0xd2
        let entersLab18002d1f5 : Bool :=
          if iVar17 * 0x5a < iVar7 then
            if iVar3 < 0xe1 then
              if iVar1 < 0xd2 then true else lab18002cf9f
            else false
          else lab18002cf9f
        if entersLab18002d1f5 then true
        else if (iVar7 ≤ iVar17 * 0x5f || iVar18 < 4) && (iVar7 ≤ iVar17 * 0x55 || iVar18 < 5) &&
            (iVar7 ≤ iVar17 * 0x5f || 0xf0 < iVar3 || 0xf0 < iVar1) &&
            (iVar7 ≤ iVar17 * 0x5a || 0xeb < iVar3 || 0xe6 < iVar1) &&
            (iVar7 ≤ iVar17 * 0x58 ||
              (param3 != 10 || param2[0] > 0xd || param2[1] > 0x11 || 0xbd < iVar3 ||
                0xd8 < iVar1 || param2[0xb] > 0x14 || param2[10] > 0x22 || param2[9] > 0x6d ||
                param2[0x17] + param2[0x15] > 0x2d) &&
              (iVar7 ≤ iVar17 * 0x58 || param3 != 10 || param2[0] > 10 || param2[1] > 0xc ||
                199 < iVar3 || 0xd8 < iVar1 || param2[0xb] > 0x14 || param2[10] > 0x2c ||
                param2[9] > 0x72 || param2[0x17] + param2[0x15] > 0x1e)) then
          if iVar17 * 0x54 < iVar7 && param3 == 10 && param2[0] < 0x10 && param2[1] < 0x11 &&
              iVar3 < 0xc2 && iVar1 < 0xcd && param2[0xb] < 0x19 && param2[10] < 0x37 &&
              param2[9] < 0x77 && param2[0x17] + param2[0x15] < 0x62 then
            let iVar7 := param2[0x15]
            lab18002d1f3 (matchSignedSubtractOverflow iVar7 0x2d) (iVar7 == 0x2d) (iVar7 - 0x2d)
          else false
        else true
    else false

def compatMaxAuxiliaryAbove3 : CompatLocals → Bool
  | ⟨param2, _, param6, iVar1, iVar2, iVar3, iVar8, iVar12, iVar14, iVar17, iVar18⟩ =>
    if 3 < iVar12 then
      if iVar18 < 2 then
        let iVar7 := param2[0x15]
        if iVar7 < 0x5a then
          let iVar9 := param2[0]
          let iVar11 := iVar8 * 100
          let iVar16 := iVar17 * 0x5a
          if iVar9 < 0x18 then
            (iVar17 * 0x5f < iVar11 && iVar14 < 0x19f ||
              iVar16 < iVar11 && iVar14 < 0x19a ||
              iVar17 * 0x55 < iVar11 && iVar14 < 0x195 ||
              iVar16 < iVar11 &&
                (iVar14 < 0x1a4 && iVar7 < 0x32 ||
                  iVar16 < iVar11 && iVar7 < 0x46 && param2[0xb] < 0x2d) ||
              iVar9 < 0xc && iVar17 * 0x50 < iVar11 && iVar14 < 0x195 ||
              iVar9 < 0x10 && iVar17 * 0x50 < iVar11 && iVar14 < 0x177 && iVar7 < 0x33 &&
                param2[0xb] < 0x1f) ||
            4 < param6 &&
              (iVar17 * 0x62 < iVar11 ||
                iVar17 * 0x5a < iVar11 && iVar1 < 0xd2 && param2[0xb] < 0x23)
          else
            iVar17 * 0x5f < iVar11 && iVar14 < 0x195 ||
            iVar17 * 99 < iVar11 && iVar3 < 0xd0 && iVar1 < 0xcf && param2[0xb] < 0x31 &&
              iVar2 < 0x47 && param2[4] < 0xe2
        else false
      else
        iVar17 * 0x55 < iVar8 * 100 && iVar3 < 0xdc && iVar1 < 0xd3 ||
        iVar3 < 0xd2 && iVar1 < 0xce && 5 < param6 ||
        iVar17 * 0x5f < iVar8 * 100 && iVar3 < 0xe7 && iVar1 < 0xe7
    else false

def compatMaxAuxiliaryAbove2 : CompatLocals → Bool
  | ⟨param2, _, _, iVar1, _, iVar3, iVar8, iVar12, iVar14, iVar17, iVar18⟩ =>
    if 2 < iVar12 then
      if iVar18 < 2 then
        if param2[0x15] < 0x5a && param2[4] < 0xf1 then
          let iVar7 := iVar8 * 100
          if param2[0] < 0x19 then
            iVar17 * 0x5a < iVar7 && iVar14 < 0x195 ||
            iVar17 * 0x5f < iVar7 &&
              (iVar14 < 0x19c ||
                iVar17 * 0x5f < iVar7 && iVar14 < 0x1a5 && param2[0x15] < 0x46) ||
            iVar17 * 0x61 < iVar7 && iVar14 < 400 && param2[0xb] < 0x24
          else iVar17 * 0x5f < iVar7 && iVar14 < 400 && param2[0xb] < 0x15
        else false
      else iVar17 * 0x5c < iVar8 * 100 && iVar3 < 0xdc && iVar1 < 0xce
    else false

def compatMaxAuxiliaryAbove1 : CompatLocals → Bool
  | ⟨param2, param3, _, iVar1, iVar2, iVar3, iVar8, iVar12, iVar14, iVar17, iVar18⟩ =>
    if 1 < iVar12 then
      if iVar18 < 2 then
        let iVar7 := param2[0x15]
        if iVar7 < 0x5a && param2[4] < 0xf0 then
          let iVar9 := param2[0]
          let iVar11 := iVar8 * 100
          if iVar9 < 0x18 then
            iVar17 * 0x5a < iVar11 &&
              (iVar14 < 0x196 && (param2[0xb] < 0x24 || iVar9 < 0x12) ||
                iVar17 * 0x5a < iVar11 && iVar1 < 0xd2 && param2[0xb] < 0x24 && iVar7 < 0x3c) ||
            iVar17 * 0x5f < iVar11 && iVar9 < 0x17 && param2[0xb] < 0x24 && iVar7 < 0x3c ||
            iVar17 * 0x62 < iVar11 && iVar9 < 0x17 && param2[0xb] < 0x29 && iVar7 < 0x41
          else
            iVar17 * 0x5f < iVar11 && iVar3 < 0xd3 && iVar1 < 0xd3 && param2[0xb] < 0x28 &&
              iVar2 < 0x3d ||
            iVar17 * 0x62 < iVar11 && iVar3 < 0xd3 && param2[0xb] < 0x29 && iVar2 < 0x49 &&
              param2[4] < 0xe6
        else false
      else
        let iVar7 := iVar8 * 100
        iVar17 * 0x62 < iVar7 && param3 == 10 && param2[0] < 0xb && param2[1] < 0xc &&
          iVar3 < 0xd2 && iVar1 < 0xec && param2[9] < 0x3c && param2[0x17] + param2[0x15] < 0x15 ||
        iVar17 * 0x60 < iVar7 && param3 == 10 && param2[0] < 0x10 && param2[1] < 0x12 &&
          iVar3 < 0xc3 && iVar1 < 0xdb && param2[0xb] < 0x18 && param2[10] < 0x32 &&
          param2[9] < 0x80 && param2[0x17] + param2[0x15] < 0x29 ||
        iVar17 * 0x5c < iVar7 &&
          (param3 == 10 && param2[0] < 0xd && param2[1] < 0xe && iVar3 < 0xd4 && iVar1 < 0xe5 &&
            param2[0xb] < 0x2b && param2[10] < 0x35 && param2[9] < 0x55 &&
            param2[0x17] + param2[0x15] < 0x23 ||
          iVar17 * 0x5c < iVar7 && param3 == 10 && param2[0] < 0xd && param2[1] < 0xd &&
            iVar3 < 0xd0 && iVar1 < 0xdd && param2[0xd] == 1 && param2[0xb] < 0x24 &&
            param2[10] < 0x33 && param2[9] < 0x5f && param2[0x17] + param2[0x15] < 0x1f) ||
        iVar17 * 0x5b < iVar7 &&
          (param3 == 10 && param2[0] < 10 && param2[1] < 0xb && iVar3 < 0xd0 && iVar1 < 0xe5 &&
            param2[0xb] < 0x2e && param2[10] < 0x3d && param2[9] < 0x4b &&
            param2[0x17] + param2[0x15] < 0x23 ||
          iVar17 * 0x5b < iVar7 && param3 == 10 && param2[0] < 0xd && param2[1] < 0x10 &&
            iVar3 < 0xd0 && iVar1 < 0xd5 && param2[0xb] < 0x2e && param2[10] < 0x2e &&
            param2[9] < 0x55 && param2[0x17] + param2[0x15] < 0x1f) ||
        iVar17 * 0x5a < iVar7 && param3 == 10 && param2[0] < 0xe && param2[1] < 0xf &&
          iVar3 < 0xd0 && iVar1 < 0xd7 && param2[0xb] < 0x1d && param2[10] < 0x25 &&
          param2[9] < 0x5a && param2[0x17] + param2[0x15] < 0x1f ||
        iVar17 * 0x59 < iVar7 &&
          (param3 == 10 && param2[0] < 9 && param2[1] < 10 && iVar3 < 0xde && iVar1 < 0xd9 &&
            param2[0xb] < 0x1b && param2[10] < 0x2e && param2[9] < 0x56 &&
            param2[0x17] + param2[0x15] < 0x27 ||
          iVar17 * 0x59 < iVar7 && param3 == 10 && param2[0] < 0xc && param2[1] < 0xe &&
            iVar3 < 0xd3 && iVar1 < 0xe2 && param2[0xb] < 0x29 && param2[10] < 0x2f &&
            param2[9] < 0x52 && param2[0x17] + param2[0x15] < 0x24) ||
        iVar17 * 0x58 < iVar7 && param3 == 10 && param2[0] < 0xb && param2[1] < 0xb &&
          iVar3 < 0xca && iVar1 < 0xdd && param2[0xb] < 0x24 && param2[10] < 0x27 &&
          param2[9] < 0x43 && param2[0x17] + param2[0x15] < 0x1f ||
        iVar17 * 0x56 < iVar7 && param3 == 10 && param2[0] < 0xd && param2[1] < 0x10 &&
          iVar3 < 0xd0 && iVar1 < 0xdb && param2[0xb] < 0x1d && param2[10] < 0x3b &&
          param2[9] < 0x58 && param2[0x17] + param2[0x15] < 0x24 ||
        iVar17 * 0x55 < iVar7 && param3 == 10 && param2[0] < 0xb && param2[1] < 0xf &&
          iVar3 < 0xca && iVar1 < 0xdb && param2[0xb] < 0x15 && param2[10] < 0x2b &&
          param2[9] < 0x70 && param2[0x17] + param2[0x15] < 0x27 ||
        iVar17 * 0x5e < iVar7 && iVar3 < 0xdc && iVar1 < 0xd8 && param2[0xb] < 0x23 ||
        iVar17 * 0x55 < iVar7 && iVar3 < 0xd7 && iVar1 < 0xd3 && param2[0xb] < 0x23 &&
          param2[0] < 0xf
    else false

/-- The condition in `compatLowGeometry` whose failure leads to `LAB_18002dcda`. -/
def compatLowGeometryGate : CompatLocals → Bool
  | ⟨param2, _, _, iVar1, iVar2, iVar3, iVar8, _, _, iVar17, _⟩ =>
    let iVar7 := iVar8 * 100
    let iVar10 := iVar17 * 0x61
    let iVar11 := param2[4]
    let iVar16 := iVar17 * 0x5f
    (iVar7 ≤ iVar17 * 0x62 ||
      (0xe5 < iVar3 || 0xd7 < iVar1 || param2[0xb] > 0x19 || 0x46 < iVar2 ||
        0xee < iVar11) &&
      (iVar7 ≤ iVar17 * 0x62 || 0xea < iVar3 || 0xd7 < iVar1 || param2[0xb] > 0x1e ||
        0x1f < iVar2 || 0xee < iVar11)) &&
    (iVar7 ≤ iVar10 ||
      (0xe0 < iVar3 || 0xd2 < iVar1 || param2[0xb] > 0x19 || 0x46 < iVar2 ||
        0xea < iVar11) &&
      (iVar7 ≤ iVar10 ||
        (0xe7 < iVar3 || param2[0xb] > 0x26 || 0x20 < iVar2 || 0xed < iVar11) &&
        (iVar7 ≤ iVar10 || 0xe3 < iVar3 || 0xd2 < iVar1 || param2[0xb] > 0x1c ||
          0x28 < iVar2 || 0xea < iVar11))) &&
    (iVar7 ≤ iVar17 * 0x60 || 0xe0 < iVar3 || 0xd2 < iVar1 || param2[0xb] > 0x1a ||
      0x44 < iVar2 || 0xea < iVar11) &&
    (iVar7 ≤ iVar16 || 0xdc < iVar3 || 0xcd < iVar1 || param2[0xb] > 0x1f ||
      0x20 < iVar2 || 0xea < iVar11) &&
    (iVar7 ≤ iVar17 * 0x5e || 0xdc < iVar3 || 0xc3 < iVar1 || param2[0xb] > 0x1f ||
      0x34 < iVar2 || 0xea < iVar11)

/-- What the statement that ends at `LAB_18002dcfb` adds to `bVar6`, and `iVar7` there.
A branch that reaches `LAB_18002dcda` gives true. -/
def compatLowGeometry : CompatLocals → Bool × Int32
  | locals@⟨param2, param3, param6, iVar1, iVar2, iVar3, iVar8, _, _, iVar17, _⟩ =>
    let iVar9 := param2[0]
    let iVar11 := param2[4]
    if iVar9 < 0x19 && param2[0x15] < 0x46 && iVar11 < 0xf2 then
      let iVar7 := iVar8 * 100
      let iVar16 := iVar17 * 0x5f
      let bVar6 :=
        iVar16 < iVar7 && iVar3 < 0xd2 && iVar1 < 0xd2 && iVar2 < 0x51 ||
        iVar17 * 0x5a < iVar7 &&
          (iVar3 < 0xcd && iVar1 < 0xcd ||
            iVar17 * 0x5a < iVar7 && param2[0] < 0xc && iVar3 < 0xd2 && iVar1 < 0xd2 &&
              param2[0xb] < 0x1a) ||
        iVar16 < iVar7 && iVar3 < 0xdc && iVar1 < 0xd2 && iVar2 < 0x10
      if param3 == 0x18 || param3 == 10 then
        let lab18002dcda : Bool × Int32 := (true, param2[0])
        if compatLowGeometryGate locals then
          let iVar16 := param2[0]
          if iVar17 * 0x5b < iVar7 && iVar3 < 0xd2 && iVar1 < 199 && param2[0xb] < 0x16 &&
              iVar2 < 0x33 && (iVar11 < 0xe6 && iVar16 < 0x10) then
            lab18002dcda
          else if iVar7 ≤ iVar17 * 0x57 || 0xd7 < iVar3 || 0xb9 < iVar1 || param2[0xb] > 0x15 ||
              0x2a < iVar2 || 0xf < iVar16 then
            let lab18002dccd := if param6 < 7 then (bVar6, param2[0]) else lab18002dcda
            if iVar17 * 0x55 < iVar7 then
              if iVar3 < 200 && iVar1 < 0xc3 && iVar2 < 0x47 then lab18002dcda
              else if iVar7 ≤ iVar17 * 0x55 then lab18002dccd
              else
                let iVar7 := param2[0]
                if iVar3 < 0xd2 && iVar1 < 0xcd && iVar7 < 0xe then lab18002dcda
                else if param6 < 7 then (bVar6, iVar7) else lab18002dcda
            else lab18002dccd
          else lab18002dcda
        else lab18002dcda
      else (bVar6, param2[0])
    else (false, iVar9)

def compatOverlapBands : CompatLocals → Bool
  | ⟨param2, param3, _, iVar1, iVar2, iVar3, iVar8, iVar12, iVar14, iVar17, _⟩ =>
    if param3 == 0x18 || param3 == 10 then
      let iVar16 := iVar8 * 100
      let iVar11 := iVar17 * 99
      let iVar11' := iVar17 * 0x61
      iVar11 < iVar16 &&
        (iVar3 < 0xd2 && param2[0xb] < 0x25 && iVar2 < 0x42 && param2[4] < 0xe7 ||
          iVar11 < iVar16 &&
            (iVar3 < 0xd2 && iVar1 == 0 && param2[0xb] < 0x31 && iVar2 < 0x47 &&
              param2[4] < 0xe7 ||
            iVar11 < iVar16 && iVar3 < 0xd9 && iVar1 < 0xb3 && param2[0xb] < 0x13 &&
              iVar2 < 0x51 && param2[4] < 0xf6)) ||
      iVar17 * 0x62 < iVar16 &&
        (iVar3 < 0xdc && iVar1 < 0xd0 && param2[0xb] < 0x1f && iVar2 < 0x51 &&
          param2[4] < 0xe9 ||
        iVar17 * 0x62 < iVar16 && iVar3 < 0xe1 && iVar1 < 0xd8 && param2[0xb] < 0x24 &&
          iVar2 < 0x44 && param2[4] < 0xeb) ||
      -- The source reuses `iVar11` for the second product.
      iVar11' < iVar16 &&
        (iVar3 < 0xdc && iVar1 < 0xce && param2[0xb] < 0x15 && iVar2 < 0x47 &&
          param2[4] < 0xe9 ||
        iVar11' < iVar16 &&
          (iVar3 < 0xd7 && param2[0xb] < 0x29 && iVar2 < 0x47 && param2[4] < 0xe9 ||
          iVar11' < iVar16 &&
            (iVar3 < 0xe0 && iVar1 < 0xce && param2[0xb] < 0x15 && iVar2 < 0x51 &&
              param2[4] < 0xe9 && iVar12 == 1 ||
            iVar11' < iVar16 && iVar3 < 0xd2 && iVar1 == 0 && param2[0xb] < 0x30 &&
              iVar2 < 0x47 && param2[4] < 0xe9 && iVar12 == 1))) ||
      iVar17 * 0x5f < iVar16 && iVar3 < 0xdd && iVar1 < 0xcd && param2[0xb] < 0x17 &&
        iVar2 < 0x4f && param2[4] < 0xe9 ||
      iVar17 * 0x5f ≤ iVar16 && iVar3 < 0xdb && iVar1 < 0xb7 && param2[0xb] < 0xe &&
        iVar2 < 0x37 && param2[4] < 0xf6 ||
      iVar17 * 0x5e < iVar16 && iVar3 < 0xda && iVar1 < 0xcf && param2[0xb] < 0x15 &&
        iVar2 < 0x51 && param2[4] < 0xfb ||
      iVar17 * 0x5d < iVar16 && iVar14 < 0x178 && param2[0xb] < 0x15 && iVar2 < 0x56 &&
        param2[4] < 0xe7 ||
      iVar17 * 0x5b < iVar16 &&
        (iVar3 < 0xd5 && iVar1 < 0xcd && param2[0xb] < 0x17 && iVar2 < 0x50 &&
          param2[4] < 0xe5 ||
        iVar17 * 0x5b < iVar16 && iVar3 < 0xd8 && iVar1 < 0xbf && param2[0xb] < 0x12 &&
          iVar2 < 0x33 && param2[4] < 0xf9)
    else false

/-- The two statements on `iVar18`; `iVar7` comes from `compatLowGeometry`. -/
def compatCandidateAuxiliary (iVar7 : Int32) : CompatLocals → Bool
  | ⟨param2, param3, _, iVar1, _, iVar3, iVar8, _, iVar14, iVar17, iVar18⟩ =>
    let iVar11 := iVar8 * 100
    2 < iVar18 &&
      (iVar3 < 0xd7 && iVar1 < 0xd7 && iVar7 < 0xb && iVar17 * 0x50 < iVar8 * 100 ||
        iVar3 < 0xdc && iVar1 < 0xdc && iVar17 * 0x5a < iVar8 * 100) ||
    1 < iVar18 &&
      (iVar3 < 0xd7 && iVar1 < 0xd7 && iVar7 < 0x10 && iVar17 * 0x5f < iVar8 * 100 ||
        iVar17 * 0x5d < iVar11 && param3 == 10 && iVar7 < 0xd && param2[1] < 0xe &&
          iVar3 < 0xc3 && iVar1 < 0xdd && param2[0xd] == 1 && param2[0xb] < 0x30 &&
          param2[10] < 0x27 && param2[9] < 0x52 && param2[0x17] + param2[0x15] < 0x2e ||
        iVar17 * 0x53 < iVar11 && param3 == 10 && iVar7 < 8 && param2[1] < 0xc &&
          iVar3 < 0xd8 && iVar1 < 0xce && param2[0xd] == 1 && param2[0xb] < 0x15 &&
          param2[10] < 0x2b && param2[9] < 0x55 && param2[0x17] + param2[0x15] < 99 &&
          param2[0x15] < 0x1a ||
        iVar17 * 0x5e < iVar11 && param3 == 10 && iVar7 < 0xb && param2[1] < 0xc &&
          iVar14 < 0x1ad && param2[0xb] < 0x29 && param2[10] < 0x2d && param2[9] < 0x48 &&
          param2[0x17] + param2[0x15] < 0x21)

def compatBaseline : CompatLocals → Bool
  | ⟨param2, _, _, iVar1, iVar2, iVar3, iVar8, _, _, iVar17, _⟩ =>
    let iVar7 := iVar17 * 0x5a
    let iVar8 := iVar8 * 100
    iVar7 < iVar8 && iVar3 < 0xcd && iVar1 < 0xd3 && param2[0xb] < 0x2d && iVar2 < 0x33 &&
      param2[4] < 0xf0 ||
    iVar17 * 0x5f < iVar8 && iVar3 < 0xd8 && iVar1 < 0xd8 && param2[0xb] < 0x23 &&
      param2[4] < 0xf0

/-- The statement for types other than 10; its mask lets types 7 and 23 through. -/
def compatOtherTypes : CompatLocals → Bool
  | ⟨param2, param3, _, iVar1, iVar2, iVar3, iVar8, iVar12, _, iVar17, iVar18⟩ =>
    let iVar7 := iVar17 * 0x5a
    let iVar8 := iVar8 * 100
    let iVar10 := param2[0xb]
    -- `iVar14` is `*param_2` and `iVar11` the product from their first use on.
    let iVar14 := param2[0]
    let iVar11 := iVar17 * 0x5f
    (param3.toUInt32 - 7) &&& 0xffffffef == 0 &&
      (iVar17 * 0x50 < iVar8 && iVar2 < 0x51 && 4 < iVar12 && 3 < iVar18 && iVar1 < 0xc3 ||
        iVar17 * 0x55 < iVar8 && iVar2 < 0x47 && 4 < iVar12 && iVar3 < 0xdc && iVar1 < 200 &&
          iVar10 < 0xf && iVar14 < 10 ||
        iVar11 < iVar8 && iVar2 < 0x51 && 3 < iVar12 ||
        iVar7 < iVar8 && iVar3 < 0xf0 && iVar1 < 0xdc && 1 < iVar18 && 3 < iVar12 ||
        iVar11 < iVar8 &&
          (iVar3 < 0xf0 && iVar1 < 0xdc && iVar2 < 0x51 && 2 < iVar12 ||
          iVar11 < iVar8 &&
            (iVar3 < 0xe6 && iVar1 < 0xdc && iVar2 < 0x4c && 1 < iVar12 ||
            iVar11 < iVar8 && iVar3 < 0xe6 && iVar1 < 0xbe && 1 < iVar12)) ||
        iVar17 * 0x61 < iVar8 &&
          (iVar3 < 0xd7 && iVar1 < 0xc3 && iVar10 < 0xf && iVar14 < 0xe && iVar2 < 0x51 &&
            0 < iVar12 ||
          iVar17 * 0x61 < iVar8 && iVar3 < 0xdc && iVar1 < 0xd2 && iVar2 < 0x47 &&
            0 < iVar12) ||
        iVar7 < iVar8 &&
          (iVar3 < 0xeb && iVar1 < 0xb9 && iVar2 < 0x47 && 0 < iVar12 && iVar14 < 8 ||
          iVar7 < iVar8 && iVar3 < 0xf0 && iVar1 < 0xdc && 2 < iVar18) ||
        iVar11 < iVar8 && iVar3 < 0xe6 && iVar1 < 0xdc && 1 < iVar18)

/-- The test at `LAB_18002fa16`. -/
def compatClearsStatus : CompatLocals → Bool
  | ⟨param2, _, _, _, _, iVar3, iVar8, _, _, iVar17, _⟩ =>
    let iVar8 := iVar8 * 100
    let iVar9 := param2[0]
    let iVar10 := param2[0xb]
    iVar17 * 0x5c < iVar8 && iVar9 < 0x12 && iVar10 < 0x1a && iVar3 < 0xda ||
    iVar17 * 0x5d < iVar8 && iVar9 < 10 && iVar10 < 0xd && iVar3 < 0xdc

/-- The declarations at the head of the body. -/
def compatLocals (param1 : Vector Int32 0x44) (param2 : Vector Int32 26) (param3 : Int32)
    (param4 : Transform) (param5 : Vector Int32 3) (param6 : Int32) : CompatLocals :=
  let iVar14 := param1[1]
  let iVar1 := param1[0]
  let iVar7 := transformOverlapAreaType24 iVar1.toUInt32 iVar14.toUInt32 param4
  let inverse := invertTransformQ8Type24 param4
  let iVar8 := transformOverlapAreaType24 iVar1.toUInt32 iVar14.toUInt32 inverse
  { param2 := param2
    param3 := param3
    param6 := param6
    iVar1 := param2[8]
    iVar2 := param1[0x43]
    iVar3 := param2[5]
    iVar8 := if iVar8 < iVar7 then iVar7 else iVar8
    iVar12 := if param5[2] < param5[0] then param5[0] else param5[2]
    iVar14 := param2[5] + param2[8]
    iVar17 := iVar1 * iVar14
    iVar18 := param5[1] }

/-- `bVar6` at `LAB_18002fa16`. -/
def compatRejects (type10Tail : CompatLocals → Bool) (locals : CompatLocals) : Bool :=
  let lowGeometry := compatLowGeometry locals
  compatMaxAuxiliaryAbove4 locals || compatMaxAuxiliaryAbove3 locals ||
    compatMaxAuxiliaryAbove2 locals || compatMaxAuxiliaryAbove1 locals || lowGeometry.1 ||
    compatOverlapBands locals || compatCandidateAuxiliary lowGeometry.2 locals ||
    compatBaseline locals ||
    if locals.param3 != 10 then compatOtherTypes locals else type10Tail locals

def matchLateRejectionPolicyCompat (type10Tail : CompatLocals → Bool)
    (param1 : Vector Int32 0x44) (param2 : Vector Int32 26) (param3 : Int32)
    (param4 : Transform) (param5 : Vector Int32 3) (param6 param7 : Int32) : LateRejection :=
  let locals := compatLocals param1 param2 param3 param4 param5 param6
  let bVar6 := compatRejects type10Tail locals
  { rejected := bVar6
    rejectionCount := if bVar6 then param6 + 1 else param6
    statusFlag := if compatClearsStatus locals then 0 else param7 }

/-- The `probe` array of `goodix_chicago_match_late_rejection_compat`. -/
def compatProbe (width height probeQuality : Int32) : Vector Int32 0x44 :=
  (((Vector.replicate 0x44 0).set 0 width).set 1 height).set 0x43 probeQuality

end GoodixSpi.Chicago
