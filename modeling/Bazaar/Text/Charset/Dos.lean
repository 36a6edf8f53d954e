import Bazaar.Text.Charset.Table

/-!
# Charsets with lines and blocks

Charsets that keep ASCII and add, beside letters, lines and blocks to draw with.
-/

namespace Bazaar.Text.Charset

/-- The charsets with lines and blocks. -/
def dosTables : List Table :=
  [⟨"cp1125", ["1125", "ibm1125", "cp866u", "ruscii"],
    ["АБВГДЕЖЗИЙКЛМНОП", "РСТУФХЦЧШЩЪЫЬЭЮЯ", "абвгдежзийклмноп", "░▒▓│┤╡╢╖╕╣║╗╝╜╛┐",
     "└┴┬├─┼╞╟╚╔╩╦╠═╬╧", "╨╤╥╙╘╒╓╫╪┘┌█▄▌▐▀", "рстуфхцчшщъыьэюя", "ЁёҐґЄєІіЇї·√№¤■\xa0"]⟩,
   ⟨"cp437", ["437", "cspc8codepage437", "ibm437"],
    ["ÇüéâäàåçêëèïîìÄÅ", "ÉæÆôöòûùÿÖÜ¢£¥₧ƒ", "áíóúñÑªº¿⌐¬½¼¡«»", "░▒▓│┤╡╢╖╕╣║╗╝╜╛┐",
     "└┴┬├─┼╞╟╚╔╩╦╠═╬╧", "╨╤╥╙╘╒╓╫╪┘┌█▄▌▐▀", "αßΓπΣσµτΦΘΩδ∞φε∩", "≡±≥≤⌠⌡÷≈°∙·√ⁿ²■\xa0"]⟩,
   ⟨"cp720", [],
    ["éâ\x84à\x86çêëèïî\x8d\x8e\x8f",
     "\x90\u0651\u0652ô¤\u0640ûù\u0621\u0622\u0623\u0624£\u0625\u0626\u0627",
     "\u0628\u0629\u062A\u062B\u062C\u062D\u062E\u062F\u0630\u0631\u0632\u0633\u0634\u0635«»",
     "░▒▓│┤╡╢╖╕╣║╗╝╜╛┐", "└┴┬├─┼╞╟╚╔╩╦╠═╬╧", "╨╤╥╙╘╒╓╫╪┘┌█▄▌▐▀",
     "\u0636\u0637\u0638\u0639\u063A\u0641µ\u0642\u0643\u0644\u0645\u0646\u0647\u0648\u0649\u064A",
     "≡\u064B\u064C\u064D\u064E\u064F\u0650≈°∙·√ⁿ²■\xa0"]⟩,
   ⟨"cp737", [],
    ["ΑΒΓΔΕΖΗΘΙΚΛΜΝΞΟΠ", "ΡΣΤΥΦΧΨΩαβγδεζηθ", "ικλμνξοπρσςτυφχψ", "░▒▓│┤╡╢╖╕╣║╗╝╜╛┐",
     "└┴┬├─┼╞╟╚╔╩╦╠═╬╧", "╨╤╥╙╘╒╓╫╪┘┌█▄▌▐▀", "ωάέήϊίόύϋώΆΈΉΊΌΎ", "Ώ±≥≤ΪΫ÷≈°∙·√ⁿ²■\xa0"]⟩,
   ⟨"cp775", ["775", "cspc775baltic", "ibm775"],
    ["ĆüéāäģåćłēŖŗīŹÄÅ", "ÉæÆōöĢ¢ŚśÖÜø£Ø×¤", "ĀĪóŻżź”¦©®¬½¼Ł«»", "░▒▓│┤ĄČĘĖ╣║╗╝ĮŠ┐",
     "└┴┬├─┼ŲŪ╚╔╩╦╠═╬Ž", "ąčęėįšųūž┘┌█▄▌▐▀", "ÓßŌŃõÕµńĶķĻļņĒŅ’", "\xad±“¾¶§÷„°∙·¹³²■\xa0"]⟩,
   ⟨"cp850", ["850", "cspc850multilingual", "ibm850"],
    ["ÇüéâäàåçêëèïîìÄÅ", "ÉæÆôöòûùÿÖÜø£Ø×ƒ", "áíóúñÑªº¿®¬½¼¡«»", "░▒▓│┤ÁÂÀ©╣║╗╝¢¥┐",
     "└┴┬├─┼ãÃ╚╔╩╦╠═╬¤", "ðÐÊËÈıÍÎÏ┘┌█▄¦Ì▀", "ÓßÔÒõÕµþÞÚÛÙýÝ¯´", "\xad±‗¾¶§÷¸°¨·¹³²■\xa0"]⟩,
   ⟨"cp852", ["852", "cspcp852", "ibm852"],
    ["ÇüéâäůćçłëŐőîŹÄĆ", "ÉĹĺôöĽľŚśÖÜŤťŁ×č", "áíóúĄąŽžĘę¬źČş«»", "░▒▓│┤ÁÂĚŞ╣║╗╝Żż┐",
     "└┴┬├─┼Ăă╚╔╩╦╠═╬¤", "đĐĎËďŇÍÎě┘┌█▄ŢŮ▀", "ÓßÔŃńňŠšŔÚŕŰýÝţ´", "\xad˝˛ˇ˘§÷¸°¨˙űŘř■\xa0"]⟩,
   ⟨"cp855", ["855", "csibm855", "ibm855"],
    ["ђЂѓЃёЁєЄѕЅіІїЇјЈ", "љЉњЊћЋќЌўЎџЏюЮъЪ", "аАбБцЦдДеЕфФгГ«»", "░▒▓│┤хХиИ╣║╗╝йЙ┐",
     "└┴┬├─┼кК╚╔╩╦╠═╬¤", "лЛмМнНоОп┘┌█▄Пя▀", "ЯрРсСтТуУжЖвВьЬ№", "\xadыЫзЗшШэЭщЩчЧ§■\xa0"]⟩,
   ⟨"cp856", [],
    [
     "\u05D0\u05D1\u05D2\u05D3\u05D4\u05D5\u05D6\u05D7",
     "\u05D8\u05D9\u05DA\u05DB\u05DC\u05DD\u05DE\u05DF",
     "\u05E0\u05E1\u05E2\u05E3\u05E4\u05E5\u05E6\u05E7\u05E8\u05E9\u05EA\uFFFD£\uFFFD×\uFFFD",
     "\uFFFD\uFFFD\uFFFD\uFFFD\uFFFD\uFFFD\uFFFD\uFFFD\uFFFD®¬½¼\uFFFD«»",
     "░▒▓│┤\uFFFD\uFFFD\uFFFD©╣║╗╝¢¥┐", "└┴┬├─┼\uFFFD\uFFFD╚╔╩╦╠═╬¤",
     "\uFFFD\uFFFD\uFFFD\uFFFD\uFFFD\uFFFD\uFFFD\uFFFD\uFFFD┘┌█▄¦\uFFFD▀",
     "\uFFFD\uFFFD\uFFFD\uFFFD\uFFFD\uFFFDµ\uFFFD\uFFFD\uFFFD\uFFFD\uFFFD\uFFFD\uFFFD¯´",
     "\xad±‗¾¶§÷¸°¨·¹³²■\xa0"]⟩,
   ⟨"cp857", ["857", "csibm857", "ibm857"],
    ["ÇüéâäàåçêëèïîıÄÅ", "ÉæÆôöòûùİÖÜø£ØŞş", "áíóúñÑĞğ¿®¬½¼¡«»", "░▒▓│┤ÁÂÀ©╣║╗╝¢¥┐",
     "└┴┬├─┼ãÃ╚╔╩╦╠═╬¤", "ºªÊËÈ\uFFFDÍÎÏ┘┌█▄¦Ì▀", "ÓßÔÒõÕµ\uFFFD×ÚÛÙìÿ¯´",
     "\xad±\uFFFD¾¶§÷¸°¨·¹³²■\xa0"]⟩,
   ⟨"cp858", ["858", "csibm858", "ibm858"],
    ["ÇüéâäàåçêëèïîìÄÅ", "ÉæÆôöòûùÿÖÜø£Ø×ƒ", "áíóúñÑªº¿®¬½¼¡«»", "░▒▓│┤ÁÂÀ©╣║╗╝¢¥┐",
     "└┴┬├─┼ãÃ╚╔╩╦╠═╬¤", "ðÐÊËÈ€ÍÎÏ┘┌█▄¦Ì▀", "ÓßÔÒõÕµþÞÚÛÙýÝ¯´", "\xad±‗¾¶§÷¸°¨·¹³²■\xa0"]⟩,
   ⟨"cp860", ["860", "csibm860", "ibm860"],
    ["ÇüéâãàÁçêÊèÍÔìÃÂ", "ÉÀÈôõòÚùÌÕÜ¢£Ù₧Ó", "áíóúñÑªº¿Ò¬½¼¡«»", "░▒▓│┤╡╢╖╕╣║╗╝╜╛┐",
     "└┴┬├─┼╞╟╚╔╩╦╠═╬╧", "╨╤╥╙╘╒╓╫╪┘┌█▄▌▐▀", "αßΓπΣσµτΦΘΩδ∞φε∩", "≡±≥≤⌠⌡÷≈°∙·√ⁿ²■\xa0"]⟩,
   ⟨"cp861", ["861", "cp_is", "csibm861", "ibm861"],
    ["ÇüéâäàåçêëèÐðÞÄÅ", "ÉæÆôöþûÝýÖÜø£Ø₧ƒ", "áíóúÁÍÓÚ¿⌐¬½¼¡«»", "░▒▓│┤╡╢╖╕╣║╗╝╜╛┐",
     "└┴┬├─┼╞╟╚╔╩╦╠═╬╧", "╨╤╥╙╘╒╓╫╪┘┌█▄▌▐▀", "αßΓπΣσµτΦΘΩδ∞φε∩", "≡±≥≤⌠⌡÷≈°∙·√ⁿ²■\xa0"]⟩,
   ⟨"cp862", ["862", "cspc862latinhebrew", "ibm862"],
    [
     "\u05D0\u05D1\u05D2\u05D3\u05D4\u05D5\u05D6\u05D7",
     "\u05D8\u05D9\u05DA\u05DB\u05DC\u05DD\u05DE\u05DF",
     "\u05E0\u05E1\u05E2\u05E3\u05E4\u05E5\u05E6\u05E7\u05E8\u05E9\u05EA¢£¥₧ƒ",
     "áíóúñÑªº¿⌐¬½¼¡«»", "░▒▓│┤╡╢╖╕╣║╗╝╜╛┐", "└┴┬├─┼╞╟╚╔╩╦╠═╬╧", "╨╤╥╙╘╒╓╫╪┘┌█▄▌▐▀",
     "αßΓπΣσµτΦΘΩδ∞φε∩", "≡±≥≤⌠⌡÷≈°∙·√ⁿ²■\xa0"]⟩,
   ⟨"cp863", ["863", "csibm863", "ibm863"],
    ["ÇüéâÂà¶çêëèïî‗À§", "ÉÈÊôËÏûù¤ÔÜ¢£ÙÛƒ", "¦´óú¨¸³¯Î⌐¬½¼¾«»", "░▒▓│┤╡╢╖╕╣║╗╝╜╛┐",
     "└┴┬├─┼╞╟╚╔╩╦╠═╬╧", "╨╤╥╙╘╒╓╫╪┘┌█▄▌▐▀", "αßΓπΣσµτΦΘΩδ∞φε∩", "≡±≥≤⌠⌡÷≈°∙·√ⁿ²■\xa0"]⟩,
   ⟨"cp864", ["864", "csibm864", "ibm864"],
    ["٪&'()*+,-./", "0123456789:;<=>?", "@ABCDEFGHIJKLMNO", "PQRSTUVWXYZ[\\]^_",
     "`abcdefghijklmno", "pqrstuvwxyz\x7b|\x7d~\x7f", "°·∙√▒─│┼┤┬├┴┐┌└┘",
     "β∞φ±½¼≈«»\uFEF7\uFEF8\uFFFD\uFFFD\uFEFB\uFEFC\uFFFD",
     "\xa0\xad\uFE82£¤\uFE84\uFFFD\uFFFD\uFE8E\uFE8F\uFE95\uFE99،\uFE9D\uFEA1\uFEA5",
     "\u0660\u0661\u0662\u0663\u0664\u0665\u0666\u0667",
     "\u0668\u0669\uFED1\u061B\uFEB1\uFEB5\uFEB9\u061F",
     "¢\uFE80\uFE81\uFE83\uFE85\uFECA\uFE8B\uFE8D\uFE91\uFE93\uFE97\uFE9B\uFE9F\uFEA3\uFEA7\uFEA9",
     "\uFEAB\uFEAD\uFEAF\uFEB3\uFEB7\uFEBB\uFEBF\uFEC1\uFEC5\uFECB\uFECF¦¬÷×\uFEC9",
     "\u0640\uFED3\uFED7\uFEDB\uFEDF\uFEE3\uFEE7\uFEEB",
     "\uFEED\uFEEF\uFEF3\uFEBD\uFECC\uFECE\uFECD\uFEE1",
     "\uFE7D\u0651\uFEE5\uFEE9\uFEEC\uFEF0\uFEF2\uFED0",
     "\uFED5\uFEF5\uFEF6\uFEDD\uFED9\uFEF1■\uFFFD"]⟩,
   ⟨"cp865", ["865", "csibm865", "ibm865"],
    ["ÇüéâäàåçêëèïîìÄÅ", "ÉæÆôöòûùÿÖÜø£Ø₧ƒ", "áíóúñÑªº¿⌐¬½¼¡«¤", "░▒▓│┤╡╢╖╕╣║╗╝╜╛┐",
     "└┴┬├─┼╞╟╚╔╩╦╠═╬╧", "╨╤╥╙╘╒╓╫╪┘┌█▄▌▐▀", "αßΓπΣσµτΦΘΩδ∞φε∩", "≡±≥≤⌠⌡÷≈°∙·√ⁿ²■\xa0"]⟩,
   ⟨"cp866", ["866", "csibm866", "ibm866"],
    ["АБВГДЕЖЗИЙКЛМНОП", "РСТУФХЦЧШЩЪЫЬЭЮЯ", "абвгдежзийклмноп", "░▒▓│┤╡╢╖╕╣║╗╝╜╛┐",
     "└┴┬├─┼╞╟╚╔╩╦╠═╬╧", "╨╤╥╙╘╒╓╫╪┘┌█▄▌▐▀", "рстуфхцчшщъыьэюя", "ЁёЄєЇїЎў°∙·√№¤■\xa0"]⟩,
   ⟨"cp869", ["869", "cp_gr", "csibm869", "ibm869"],
    ["\uFFFD\uFFFD\uFFFD\uFFFD\uFFFD\uFFFDΆ\uFFFD·¬¦‘’Έ―Ή", "ΊΪΌ\uFFFD\uFFFDΎΫ©Ώ²³ά£έήί",
     "ϊΐόύΑΒΓΔΕΖΗ½ΘΙ«»", "░▒▓│┤ΚΛΜΝ╣║╗╝ΞΟ┐", "└┴┬├─┼ΠΡ╚╔╩╦╠═╬Σ", "ΤΥΦΧΨΩαβγ┘┌█▄δε▀",
     "ζηθικλμνξοπρσςτ΄", "\xad±υφχ§ψ΅°¨ωϋΰώ■\xa0"]⟩]

end Bazaar.Text.Charset
