/-!
# The default settings
-/

namespace Wordbridge.Settings

def defaultText : String :=
  r#"[compile]
# Encoding of the input, output and map files.
charset = "UTF-8"
# Abort instead of continuing when the requested map file is missing.
stop_on_error = false
# Compile with the external map and inline directives only.
ignore_default_map = false
# Optional external map file (ADD key::value; entries).
# map = "file.map.blya"

[translit]
# translit(привет) → privet
directive = "translit"
"#

end Wordbridge.Settings
