import GoodixSpi.Chicago.Feature.Mask

/-! The separable Gaussian filters of the feature stage and the planes that are made with them: the
feature source, the nine scales and the input of the gradients. -/

namespace GoodixSpi.Chicago

/-! ### Planes -/

/-- The plane with a value for every column and row. -/
def planeOf {α : Type} (value : ℕ → ℕ → α) : Vector α pixels :=
  Vector.ofFn fun pixel => value (pixel % imageWidth) (pixel / imageWidth)

def planeAt (plane : Plane) (x y : ℕ) : ℕ := (pixelAt plane (y * imageWidth + x)).toNat

lemma pixel_lt {x y : ℕ} (inX : x < imageWidth) (inY : y < imageHeight) :
    y * imageWidth + x < pixels := by
  unfold pixels imageWidth imageHeight at *
  omega

lemma getElem_planeOf {α : Type} (value : ℕ → ℕ → α) {x y : ℕ} (inX : x < imageWidth)
    (inside : y * imageWidth + x < pixels) :
    (planeOf value)[y * imageWidth + x] = value x y := by
  rw [planeOf, Vector.getElem_ofFn]
  have column : (y * imageWidth + x) % imageWidth = x := by
    rw [Nat.mul_add_mod_self_right, Nat.mod_eq_of_lt inX]
  have line : (y * imageWidth + x) / imageWidth = y := by
    rw [Nat.add_comm, Nat.add_mul_div_right _ _ (by decide), Nat.div_eq_of_lt inX, Nat.zero_add]
  rw [column, line]

lemma planeAt_planeOf (value : ℕ → ℕ → UInt16) {x y : ℕ} (inX : x < imageWidth)
    (inY : y < imageHeight) : planeAt (planeOf value) x y = (value x y).toNat := by
  rw [planeAt, pixelAt_eq _ (pixel_lt inX inY), getElem_planeOf value inX]

lemma enhancedAt_planeOf (value : ℕ → ℕ → UInt8) {x y : ℕ} (inX : x < imageWidth)
    (inY : y < imageHeight) : enhancedAt (planeOf value) x y = (value x y).toNat := by
  rw [enhancedAt_eq _ (pixel_lt inX inY), getElem_planeOf value inX]

/-! ### `filter_q16` -/

/-- The coefficients of one side after the other; their number is odd. -/
abbrev ChicagoKernel := List ℕ

/-- The weighted sum of the samples from `delta` on. -/
def kernelSum (sample : ℤ → ℕ) : ChicagoKernel → ℤ → ℕ
  | [], _ => 0
  | coefficient :: rest, delta =>
    sample delta * coefficient + kernelSum sample rest (delta + 1)

/-- The sum over a kernel in Q16, saturated to 16 bits. -/
def kernelTap (kernel : ChicagoKernel) (sample : ℤ → ℕ) : UInt16 :=
  UInt16.ofNat (min (kernelSum sample kernel (-(kernel.length / 2 : ℕ)) / 0x10000) 0xffff)

def filterHorizontal (input : Plane) (kernel : ChicagoKernel) : Plane :=
  planeOf fun x y => kernelTap kernel fun delta =>
    planeAt input (temporalReflect101 ((x : ℤ) + delta) imageWidth) y

def filterVertical (input : Plane) (kernel : ChicagoKernel) : Plane :=
  planeOf fun x y => kernelTap kernel fun delta =>
    planeAt input x (temporalReflect101 ((y : ℤ) + delta) imageHeight)

def filterQ16 (input : Plane) (kernel : ChicagoKernel) : Plane :=
  filterVertical (filterHorizontal input kernel) kernel

def featureKernels : List ChicagoKernel :=
  [[0x0123, 0x0dd3, 0x3df6, 0x6628, 0x3df6, 0x0dd3, 0x0123],
   [0x004d, 0x0391, 0x14e1, 0x3c4f, 0x55e4, 0x3c4f, 0x14e1, 0x0391, 0x004d],
   [0x0010, 0x0464, 0x38d5, 0x856e, 0x38d5, 0x0464, 0x0010],
   [0x007e, 0x0a09, 0x3d5e, 0x7036, 0x3d5e, 0x0a09, 0x007e],
   [0x001a, 0x0207, 0x111e, 0x3d94, 0x5e5b, 0x3d94, 0x111e, 0x0207, 0x001a],
   [0x00a3, 0x0540, 0x17bd, 0x3ab1, 0x4f5e, 0x3ab1, 0x17bd, 0x0540, 0x00a3],
   [0x0052, 0x0232, 0x09c7, 0x1c6c, 0x35ea, 0x42be, 0x35ea, 0x1c6c, 0x09c7, 0x0232, 0x0052],
   [0x003f, 0x014b, 0x0505, 0x0e6f, 0x1eb1, 0x3043, 0x381f, 0x3043, 0x1eb1, 0x0e6f, 0x0505,
    0x014b, 0x003f],
   [0x0041, 0x0103, 0x0347, 0x0890, 0x1211, 0x1ece, 0x2a6c, 0x2f34, 0x2a6c, 0x1ece, 0x1211,
    0x0890, 0x0347, 0x0103, 0x0041]]

def gradientInputKernels : List ChicagoKernel :=
  [[0x0054, 0x03bd, 0x1539, 0x3c27, 0x551e, 0x3c27, 0x1539, 0x03bd, 0x0054],
   [0x008b, 0x0a70, 0x3d7e, 0x6f0e, 0x3d7e, 0x0a70, 0x008b]]

def prefilter : ChicagoKernel := [0x5555, 0x5555, 0x5555]

/-! ### The planes of the stage -/

/-- `(guint16) image[pixel] << 8` for every pixel. -/
def lifted (image : FeatureImage) : Plane :=
  image.map fun (value : UInt8) => value.toUInt16 <<< (8 : UInt16)

/-- `goodix_chicago_feature_build_source`. -/
def buildSource (enhanced : FeatureImage) : FeatureImage :=
  (filterQ16 (lifted enhanced) prefilter).map fun value => (value >>> 8 : UInt16).toUInt8

/-- Each plane filtered from the one before it. -/
def successiveFilters (first : Plane) : List ChicagoKernel → List Plane
  | [] => [first]
  | kernel :: rest => first :: successiveFilters (filterQ16 first kernel) rest

/-- `goodix_chicago_feature_build_scale_space`: planes zero and one share their input. -/
def buildScaleSpace (enhanced : FeatureImage) : List Plane :=
  let source := lifted (buildSource enhanced)
  filterQ16 source (featureKernels.getD 0 []) ::
    successiveFilters (filterQ16 source (featureKernels.getD 1 [])) (featureKernels.drop 2)

/-- `goodix_chicago_feature_build_gradient_input`. -/
def buildGradientInput (image : FeatureImage) : Vector ℤ pixels :=
  let filtered0 := filterQ16 (lifted image) (gradientInputKernels.getD 0 [])
  let filtered1 := filterQ16 filtered0 (gradientInputKernels.getD 1 [])
  planeOf fun x y => 10 * (planeAt filtered0 x y : ℤ) - 9 * planeAt filtered1 x y

end GoodixSpi.Chicago
