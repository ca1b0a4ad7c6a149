import FormatScan.Json.Printer
import FormatScan.Signature.Basic
/-!
The signatures that are used when no others are given.
-/

namespace FormatScan.Signature

def builtin : List Signature := [
  { name := "PDF", head := "25504446", extensions := ["pdf"], minFileSize := 16 },
  { name := "ZIP", head := "504B0304", extensions := ["zip"], minFileSize := 22 },
  { name := "DOCX", head := "504B0304", pattern := "word/document.xml", extensions := ["docx"],
    priority := 5 },
  { name := "XLSX", head := "504B0304", pattern := "xl/workbook.xml", extensions := ["xlsx"],
    priority := 5 },
  { name := "PPTX", head := "504B0304", pattern := "ppt/presentation.xml", extensions := ["pptx"],
    priority := 5 },
  { name := "OLE", head := "D0CF11E0A1B11AE1", extensions := ["ole"], minFileSize := 512 },
  { name := "DOC", head := "D0CF11E0A1B11AE1",
    pattern := "57006F007200640044006F00630075006D0065006E007400", extensions := ["doc"],
    deductFrom := some "OLE", priority := 5 },
  { name := "XLS", head := "D0CF11E0A1B11AE1", pattern := "57006F0072006B0062006F006F006B00",
    extensions := ["xls"], deductFrom := some "OLE", priority := 5 },
  { name := "PPT", head := "D0CF11E0A1B11AE1",
    pattern := "50006F0077006500720050006F0069006E007400200044006F00630075006D0065006E007400",
    extensions := ["ppt"], deductFrom := some "OLE", priority := 5 },
  { name := "RAR4", head := "526172211A0700", extensions := ["rar"], priority := 1,
    exclusiveWith := ["RAR5"] },
  { name := "RAR5", head := "526172211A070100", extensions := ["rar"], priority := 2,
    exclusiveWith := ["RAR4"] },
  { name := "7Z", head := "377ABCAF271C", extensions := ["7z"] },
  { name := "GZIP", head := "1F8B08", extensions := ["gz", "tgz"] },
  { name := "PNG", head := "89504E470D0A1A0A", tail := "49454E44AE426082", extensions := ["png"],
    minFileSize := 67 },
  { name := "JPG", head := "FFD8FF", extensions := ["jpg", "jpeg"], minFileSize := 125 },
  { name := "GIF", head := "47494638", extensions := ["gif"] },
  { name := "BMP", kind := .text, pattern := "^BM[\\s\\S]\x7b4\x7d\\x00\\x00\\x00\\x00",
    extensions := ["bmp"] },
  { name := "PE", head := "4D5A", pattern := "50450000", extensions := ["exe", "dll"] },
  { name := "SQLITE", head := "53514C69746520666F726D6174203300", extensions := ["sqlite", "db"] },
  { name := "FLAC", head := "664C6143", extensions := ["flac"] },
  { name := "WAV", head := "52494646", pattern := "57415645666D7420", extensions := ["wav"] },
  { name := "MKV", head := "1A45DFA3", extensions := ["mkv", "webm"] },
  { name := "MP3", head := "494433", extensions := ["mp3"] },
  { name := "HTML", kind := .text, pattern := "<html[\\s>]", extensions := ["html", "htm"] },
  { name := "XML", kind := .text, pattern := "<\\?xml\\s+version", extensions := ["xml"] },
  { name := "JSON", kind := .text, pattern := "^\\s*\\\x7b\\s*\"[^\"]+\"\\s*:",
    extensions := ["json"] },
  { name := "EMAIL", kind := .text,
    pattern := "From:\\s.+\\r?\\n(?:To|Subject|Date|MIME-Version):", extensions := ["eml"] }]

def builtinEntries : List Json := [
  .object [("name", .string "PDF"), ("type", .string "binary"), ("hex_head", .string "25504446"),
    ("extensions", .array [.string "pdf"]), ("min_file_size", .nat 16)],
  .object [("name", .string "ZIP"), ("type", .string "binary"), ("hex_head", .string "504B0304"),
    ("extensions", .array [.string "zip"]), ("min_file_size", .nat 22)],
  .object [("name", .string "DOCX"), ("type", .string "binary"), ("hex_head", .string "504B0304"),
    ("pattern", .string "word/document.xml"), ("extensions", .array [.string "docx"]),
    ("priority", .nat 5)],
  .object [("name", .string "XLSX"), ("type", .string "binary"), ("hex_head", .string "504B0304"),
    ("pattern", .string "xl/workbook.xml"), ("extensions", .array [.string "xlsx"]),
    ("priority", .nat 5)],
  .object [("name", .string "PPTX"), ("type", .string "binary"), ("hex_head", .string "504B0304"),
    ("pattern", .string "ppt/presentation.xml"), ("extensions", .array [.string "pptx"]),
    ("priority", .nat 5)],
  .object [("name", .string "OLE"), ("type", .string "binary"),
    ("hex_head", .string "D0CF11E0A1B11AE1"), ("extensions", .array [.string "ole"]),
    ("min_file_size", .nat 512)],
  .object [("name", .string "DOC"), ("type", .string "binary"),
    ("hex_head", .string "D0CF11E0A1B11AE1"),
    ("pattern", .string "57006F007200640044006F00630075006D0065006E007400"),
    ("extensions", .array [.string "doc"]), ("deduct_from", .string "OLE"), ("priority", .nat 5)],
  .object [("name", .string "XLS"), ("type", .string "binary"),
    ("hex_head", .string "D0CF11E0A1B11AE1"),
    ("pattern", .string "57006F0072006B0062006F006F006B00"), ("extensions", .array [.string "xls"]),
    ("deduct_from", .string "OLE"), ("priority", .nat 5)],
  .object [("name", .string "PPT"), ("type", .string "binary"),
    ("hex_head", .string "D0CF11E0A1B11AE1"),
    ("pattern",
      .string "50006F0077006500720050006F0069006E007400200044006F00630075006D0065006E007400"),
    ("extensions", .array [.string "ppt"]), ("deduct_from", .string "OLE"), ("priority", .nat 5)],
  .object [("name", .string "RAR4"), ("type", .string "binary"),
    ("hex_head", .string "526172211A0700"), ("extensions", .array [.string "rar"]),
    ("priority", .nat 1), ("exclusive_with", .array [.string "RAR5"])],
  .object [("name", .string "RAR5"), ("type", .string "binary"),
    ("hex_head", .string "526172211A070100"), ("extensions", .array [.string "rar"]),
    ("priority", .nat 2), ("exclusive_with", .array [.string "RAR4"])],
  .object [("name", .string "7Z"), ("type", .string "binary"), ("hex_head", .string "377ABCAF271C"),
    ("extensions", .array [.string "7z"])],
  .object [("name", .string "GZIP"), ("type", .string "binary"), ("hex_head", .string "1F8B08"),
    ("extensions", .array [.string "gz", .string "tgz"])],
  .object [("name", .string "PNG"), ("type", .string "binary"),
    ("hex_head", .string "89504E470D0A1A0A"), ("hex_tail", .string "49454E44AE426082"),
    ("extensions", .array [.string "png"]), ("min_file_size", .nat 67)],
  .object [("name", .string "JPG"), ("type", .string "binary"), ("hex_head", .string "FFD8FF"),
    ("extensions", .array [.string "jpg", .string "jpeg"]), ("min_file_size", .nat 125)],
  .object [("name", .string "GIF"), ("type", .string "binary"), ("hex_head", .string "47494638"),
    ("extensions", .array [.string "gif"])],
  .object [("name", .string "BMP"), ("type", .string "text"),
    ("pattern", .string "^BM[\\s\\S]\x7b4\x7d\\x00\\x00\\x00\\x00"),
    ("extensions", .array [.string "bmp"])],
  .object [("name", .string "PE"), ("type", .string "binary"), ("hex_head", .string "4D5A"),
    ("pattern", .string "50450000"), ("extensions", .array [.string "exe", .string "dll"])],
  .object [("name", .string "SQLITE"), ("type", .string "binary"),
    ("hex_head", .string "53514C69746520666F726D6174203300"),
    ("extensions", .array [.string "sqlite", .string "db"])],
  .object [("name", .string "FLAC"), ("type", .string "binary"), ("hex_head", .string "664C6143"),
    ("extensions", .array [.string "flac"])],
  .object [("name", .string "WAV"), ("type", .string "binary"), ("hex_head", .string "52494646"),
    ("pattern", .string "57415645666D7420"), ("extensions", .array [.string "wav"])],
  .object [("name", .string "MKV"), ("type", .string "binary"), ("hex_head", .string "1A45DFA3"),
    ("extensions", .array [.string "mkv", .string "webm"])],
  .object [("name", .string "MP3"), ("type", .string "binary"), ("hex_head", .string "494433"),
    ("extensions", .array [.string "mp3"])],
  .object [("name", .string "HTML"), ("type", .string "text"), ("pattern", .string "<html[\\s>]"),
    ("extensions", .array [.string "html", .string "htm"])],
  .object [("name", .string "XML"), ("type", .string "text"),
    ("pattern", .string "<\\?xml\\s+version"), ("extensions", .array [.string "xml"])],
  .object [("name", .string "JSON"), ("type", .string "text"),
    ("pattern", .string "^\\s*\\\x7b\\s*\"[^\"]+\"\\s*:"), ("extensions", .array [.string "json"])],
  .object [("name", .string "EMAIL"), ("type", .string "text"),
    ("pattern", .string "From:\\s.+\\r?\\n(?:To|Subject|Date|MIME-Version):"),
    ("extensions", .array [.string "eml"])]]

def builtinText : String := (Json.array builtinEntries).renderPretty 0 ++ "\n"

end FormatScan.Signature
