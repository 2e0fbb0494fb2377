/-!
# The default unit table

The spelling of Russian, Ukrainian and Belarusian letters in Latin letters.
-/

namespace Wordbridge.UnitTable

def defaultText : String :=
  r#"# Cyrillic → Latin romanization used by the translit(...) directive.
#
# Units are matched longest first against the lower-cased argument, so the
# decomposed forms (base letter + combining mark) win over the bare letter.
# Characters without an entry are copied through unchanged.

[mappings]
"а" = "a"
"б" = "b"
"в" = "v"
"г" = "g"
"д" = "d"
"е" = "e"
"ё" = "yo"
"ж" = "zh"
"з" = "z"
"и" = "i"
"й" = "y"
"к" = "k"
"л" = "l"
"м" = "m"
"н" = "n"
"о" = "o"
"п" = "p"
"р" = "r"
"с" = "s"
"т" = "t"
"у" = "u"
"ф" = "f"
"х" = "kh"
"ц" = "ts"
"ч" = "ch"
"ш" = "sh"
"щ" = "shch"
"ъ" = ""
"ы" = "y"
"ь" = ""
"э" = "e"
"ю" = "yu"
"я" = "ya"

# Ukrainian and Belarusian letters
"і" = "i"
"ї" = "yi"
"є" = "ye"
"ґ" = "g"
"ў" = "w"

# Decomposed forms
"\u0438\u0306" = "y"
"\u0435\u0308" = "yo"
"\u0456\u0308" = "yi"
"\u0443\u0306" = "w"
"#

end Wordbridge.UnitTable
