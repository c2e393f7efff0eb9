import Montage.Address
import Montage.File.Path
import Montage.Text.Letter

/-!
Media types of files, guessed from the ends of their names.
-/

namespace Montage.MediaType

/-- Media types by the suffixes of names. -/
def bySuffix : List (String × String) :=
  [(".js", "application/javascript"), (".mjs", "application/javascript"),
   (".json", "application/json"), (".webmanifest", "application/manifest+json"),
   (".doc", "application/msword"), (".dot", "application/msword"), (".wiz", "application/msword"),
   (".nq", "application/n-quads"), (".nt", "application/n-triples"),
   (".bin", "application/octet-stream"), (".a", "application/octet-stream"),
   (".dll", "application/octet-stream"), (".exe", "application/octet-stream"),
   (".o", "application/octet-stream"), (".obj", "application/octet-stream"),
   (".so", "application/octet-stream"), (".oda", "application/oda"), (".pdf", "application/pdf"),
   (".p7c", "application/pkcs7-mime"), (".ps", "application/postscript"),
   (".ai", "application/postscript"), (".eps", "application/postscript"),
   (".trig", "application/trig"), (".m3u", "application/vnd.apple.mpegurl"),
   (".m3u8", "application/vnd.apple.mpegurl"), (".xls", "application/vnd.ms-excel"),
   (".xlb", "application/vnd.ms-excel"), (".ppt", "application/vnd.ms-powerpoint"),
   (".pot", "application/vnd.ms-powerpoint"), (".ppa", "application/vnd.ms-powerpoint"),
   (".pps", "application/vnd.ms-powerpoint"), (".pwz", "application/vnd.ms-powerpoint"),
   (".wasm", "application/wasm"), (".bcpio", "application/x-bcpio"),
   (".cpio", "application/x-cpio"), (".csh", "application/x-csh"), (".dvi", "application/x-dvi"),
   (".gtar", "application/x-gtar"), (".hdf", "application/x-hdf"), (".h5", "application/x-hdf5"),
   (".latex", "application/x-latex"), (".mif", "application/x-mif"),
   (".cdf", "application/x-netcdf"), (".nc", "application/x-netcdf"),
   (".p12", "application/x-pkcs12"), (".pfx", "application/x-pkcs12"),
   (".ram", "application/x-pn-realaudio"), (".pyc", "application/x-python-code"),
   (".pyo", "application/x-python-code"), (".sh", "application/x-sh"),
   (".shar", "application/x-shar"), (".swf", "application/x-shockwave-flash"),
   (".sv4cpio", "application/x-sv4cpio"), (".sv4crc", "application/x-sv4crc"),
   (".tar", "application/x-tar"), (".tcl", "application/x-tcl"), (".tex", "application/x-tex"),
   (".texi", "application/x-texinfo"), (".texinfo", "application/x-texinfo"),
   (".roff", "application/x-troff"), (".t", "application/x-troff"),
   (".tr", "application/x-troff"), (".man", "application/x-troff-man"),
   (".me", "application/x-troff-me"), (".ms", "application/x-troff-ms"),
   (".ustar", "application/x-ustar"), (".src", "application/x-wais-source"),
   (".xsl", "application/xml"), (".rdf", "application/xml"), (".wsdl", "application/xml"),
   (".xpdl", "application/xml"), (".zip", "application/zip"), (".3gp", "audio/3gpp"),
   (".3gpp", "audio/3gpp"), (".3g2", "audio/3gpp2"), (".3gpp2", "audio/3gpp2"),
   (".aac", "audio/aac"), (".adts", "audio/aac"), (".loas", "audio/aac"), (".ass", "audio/aac"),
   (".au", "audio/basic"), (".snd", "audio/basic"), (".mp3", "audio/mpeg"),
   (".mp2", "audio/mpeg"), (".opus", "audio/opus"), (".aif", "audio/x-aiff"),
   (".aifc", "audio/x-aiff"), (".aiff", "audio/x-aiff"), (".ra", "audio/x-pn-realaudio"),
   (".wav", "audio/x-wav"), (".avif", "image/avif"), (".bmp", "image/bmp"), (".gif", "image/gif"),
   (".ief", "image/ief"), (".jpg", "image/jpeg"), (".jpe", "image/jpeg"), (".jpeg", "image/jpeg"),
   (".heic", "image/heic"), (".heif", "image/heif"), (".png", "image/png"),
   (".svg", "image/svg+xml"), (".tiff", "image/tiff"), (".tif", "image/tiff"),
   (".ico", "image/vnd.microsoft.icon"), (".ras", "image/x-cmu-raster"),
   (".pnm", "image/x-portable-anymap"), (".pbm", "image/x-portable-bitmap"),
   (".pgm", "image/x-portable-graymap"), (".ppm", "image/x-portable-pixmap"),
   (".rgb", "image/x-rgb"), (".xbm", "image/x-xbitmap"), (".xpm", "image/x-xpixmap"),
   (".xwd", "image/x-xwindowdump"), (".eml", "message/rfc822"), (".mht", "message/rfc822"),
   (".mhtml", "message/rfc822"), (".nws", "message/rfc822"), (".css", "text/css"),
   (".csv", "text/csv"), (".html", "text/html"), (".htm", "text/html"), (".n3", "text/n3"),
   (".txt", "text/plain"), (".bat", "text/plain"), (".c", "text/plain"), (".h", "text/plain"),
   (".ksh", "text/plain"), (".pl", "text/plain"), (".srt", "text/plain"),
   (".rtx", "text/richtext"), (".tsv", "text/tab-separated-values"), (".vtt", "text/vtt"),
   (".py", "text/x-python"), (".etx", "text/x-setext"), (".sgm", "text/x-sgml"),
   (".sgml", "text/x-sgml"), (".vcf", "text/x-vcard"), (".xml", "text/xml"),
   (".mp4", "video/mp4"), (".mpeg", "video/mpeg"), (".m1v", "video/mpeg"), (".mpa", "video/mpeg"),
   (".mpe", "video/mpeg"), (".mpg", "video/mpeg"), (".mov", "video/quicktime"),
   (".qt", "video/quicktime"), (".webm", "video/webm"), (".avi", "video/x-msvideo"),
   (".movie", "video/x-sgi-movie")]

/-- Suffixes that stand for two: an archive and its compression. -/
def doubled : List (String × String) :=
  [(".svgz", ".svg.gz"), (".tgz", ".tar.gz"), (".taz", ".tar.gz"), (".tz", ".tar.gz"),
   (".tbz2", ".tar.bz2"), (".txz", ".tar.xz")]

/-- Suffixes of compressed files. -/
def compressed : List String := [".gz", ".Z", ".bz2", ".xz", ".br"]

/-- Schemes whose paths can end in parameters behind a semicolon. -/
def withParameters : List String :=
  ["ftp", "hdl", "prospero", "http", "https", "shttp", "rtsp", "rtspu", "sip", "sips", "mms",
   "sftp", "tel"]

/-- A name split before the last dot of its last part; dots that the part starts with do not
count. -/
def splitSuffix (name : List Char) : List Char × String :=
  let part := (name.reverse.takeWhile (· != '/')).reverse
  let bare := part.dropWhile (· == '.')
  let after := (bare.reverse.takeWhile (· != '.')).reverse
  if after.length < bare.length then
    (name.take (name.length - after.length - 1), String.ofList ('.' :: after))
  else (name, "")

/-- The scheme that an address starts with, in small letters, and what follows its colon. -/
def splitScheme? (address : List Char) : Option (String × List Char) :=
  let scheme := address.takeWhile (· != ':')
  let rest := address.drop scheme.length
  let fits := fun (character : Char) =>
    character.isAlphanum || character == '+' || character == '-' || character == '.'
  if rest.isEmpty || scheme.length < 2 || !(scheme.head?.any Char.isAlpha) || !scheme.all fits then
    none
  else some (String.ofList (scheme.map Char.toLower), rest.drop 1)

/-- The path of an address without its host, query, fragment and parameters. -/
def pathOfAddress (scheme : String) (rest : List Char) : List Char :=
  let hosted := match rest with
    | '/' :: '/' :: after => after.dropWhile fun character =>
        character != '/' && character != '?' && character != '#'
    | rest => rest
  let path := (hosted.takeWhile (· != '#')).takeWhile (· != '?')
  if withParameters.contains scheme then
    let part := (path.reverse.takeWhile (· != '/')).reverse
    path.take (path.length - part.length) ++ part.takeWhile (· != ';')
  else path

/-- The media type that an address with its data in it declares, plain text if none. -/
def ofData? (path : List Char) : Option String :=
  if path.contains ',' then
    let declared := (path.takeWhile (· != ',')).takeWhile (· != ';')
    some (if declared.contains '=' || !declared.contains '/' then "text/plain"
      else String.ofList declared)
  else none

/-- The suffixes of a name with the doubled ones written out. -/
def expand (base : List Char) (suffix : String) : List Char × String :=
  match doubled.lookup (Text.lower suffix) with
  | some pair => splitSuffix (base ++ pair.toList)
  | none => (base, suffix)

/-- The media type of a file by its name. -/
def ofName? (name : List Char) : Option String :=
  let (base, suffix) := splitSuffix name
  let (base, suffix) := expand base suffix
  let suffix := if compressed.contains suffix then (splitSuffix base).2 else suffix
  bySuffix.lookup (Text.lower suffix)

/-- The media type of a file by its path or address. -/
def guess? (address : String) : Option String :=
  match splitScheme? (Address.clean address) with
  | some (scheme, rest) =>
    let path := pathOfAddress scheme rest
    if scheme == "data" then ofData? path else ofName? path
  | none => ofName? address.toList

end Montage.MediaType
