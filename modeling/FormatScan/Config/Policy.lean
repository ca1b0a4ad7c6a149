/-!
What is known of container formats: formats that every file of other formats counts as, and
formats that are often found inside of such files.
-/

namespace FormatScan

structure ContainerPolicy where
  container : String := "ZIP"
  /-- Formats of which every file is a file of the container format. -/
  derived : List String := ["DOCX", "XLSX", "PPTX"]
  /-- Formats that are embedded as soon as there is a file of a derived format. -/
  embedded : List String := ["XML", "HTML", "JSON", "GIF", "BMP"]
  /-- Formats that are embedded only if there are more of them than `imageThreshold`. -/
  thresholded : List String := ["PNG", "JPG"]
  imageThreshold : Nat := 2
deriving DecidableEq

end FormatScan
