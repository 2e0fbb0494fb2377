/-!
# The default name table

The words of the dialect for the keywords and common functions of Lua.
-/

namespace Wordbridge.NameTable

def defaultText : String :=
  r#"# Built-in BidLua names: dialect word = Lua word.
#
# Every value must be unique so the table can be read backwards when a
# .lua file is compiled into dialect source.

[names]
# Keywords
"также" = "and"
"прервать" = "break"
"делать" = "do"
"иначе" = "else"
"иначеесли" = "elseif"
"конец" = "end"
"ложь" = "false"
"для" = "for"
"функция" = "function"
"перейти" = "goto"
"если" = "if"
"внутри" = "in"
"локальный" = "local"
"ничего" = "nil"
"нет" = "not"
"либо" = "or"
"повторять" = "repeat"
"вернуть" = "return"
"тогда" = "then"
"истина" = "true"
"покане" = "until"
"пока" = "while"

# Standard library
"вывести" = "print"
"пары" = "pairs"
"ипары" = "ipairs"
"требовать" = "require"
"тип" = "type"
"встроку" = "tostring"
"вчисло" = "tonumber"
"ошибка" = "error"
"проверить" = "assert"
"выбрать" = "select"
"защищённо" = "pcall"
"строка" = "string"
"таблица" = "table"
"математика" = "math"
"сам" = "self"
"#

end Wordbridge.NameTable
