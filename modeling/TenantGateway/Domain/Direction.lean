/-
The direction in which domain names are read.

As soon as one label of a domain holds a character that is read from right to left, every label has to have one direction, so
that the domain is shown in one way only.
-/
import TenantGateway.Text.Points

namespace TenantGateway.Domain

open Text

/-- from where on which direction holds -/
def directionLines : List String :=
  ["30:e 3a:o 61:l 7b:o df:l f7:o f8:l 2b9:o 2bb:l 2c2:o 2d0:l 2d2:o 2ee:l 2ef:o 300:n 371:l 375:o 377:l 3f6:o 3f8:l",
    "483:n 48b:l 58a:o 591:n 5be:r 5bf:n 5c0:r 5c1:n 5c3:r 5c4:n 5c6:r 5c7:n 5d0:r 606:o 608:r 609:o 60b:r 60c:o",
    "60d:r 60e:o 610:n 61b:r 64b:n 660:a 66a:o 66b:a 66d:r 670:n 671:r 6d6:n 6de:o 6df:n 6e5:r 6e7:n 6e9:o 6ea:n",
    "6ee:r 6f0:e 6fa:r 711:n 712:r 730:n 74d:r 7a6:n 7b1:r 7eb:n 7f4:r 7f6:o 7fa:r 7fd:n 7fe:r 816:n 81a:r 81b:n",
    "824:r 825:n 828:r 829:n 830:r 859:n 85e:r 897:n 8a0:r 8ca:n 903:l 93a:n 93b:l 93c:n 93d:l 941:n 949:l 94d:n",
    "94e:l 951:n 960:l 962:n 964:l 981:n 982:l 9bc:n 9bd:l 9c1:n 9c7:l 9cd:n 9ce:l 9e2:n 9e6:l 9f2:o 9f4:l 9fb:o",
    "9fc:l 9fe:n a03:l a3c:n a3e:l a41:n a5c:l a70:n a72:l a75:n a76:l a81:n a83:l abc:n abd:l ac1:n ac9:l acd:n",
    "ad0:l ae2:n ae6:l af1:o af9:l afa:n b02:l b3c:n b3d:l b3f:n b40:l b41:n b47:l b4d:n b57:l b62:n b66:l b82:n",
    "b83:l bc0:n bc1:l bcd:n bd0:l bf3:o c00:n c01:l c04:n c05:l c3c:n c3d:l c3e:n c41:l c46:n c58:l c62:n c66:l",
    "c78:o c7f:l c81:n c82:l cbc:n cbd:l ccc:n cd5:l ce2:n ce6:l d00:n d02:l d3b:n d3d:l d41:n d46:l d4d:n d4e:l",
    "d62:n d66:l d81:n d82:l dca:n dcf:l dd2:n dd8:l e31:n e32:l e34:n e3f:o e40:l e47:n e4f:l eb1:n eb2:l eb4:n",
    "ebd:l ec8:n ed0:l f18:n f1a:l f35:n f36:l f37:n f38:l f39:n f3a:o f3e:l f71:n f7f:l f80:n f85:l f86:n f88:l",
    "f8d:n fbe:l fc6:n fc7:l 102d:n 1031:l 1032:n 1038:l 1039:n 103b:l 103d:n 103f:l 1058:n 105a:l 105e:n 1061:l",
    "1071:n 1075:l 1082:n 1083:l 1085:n 1087:l 108d:n 108e:l 109d:n 109e:l 135d:n 1360:l 1390:o 13a0:l 1400:o 1401:l",
    "169b:o 16a0:l 1712:n 1715:l 1732:n 1734:l 1752:n 1760:l 1772:n 1780:l 17b7:n 17be:l 17c6:n 17c7:l 17c9:n 17d4:l",
    "17db:o 17dc:l 17dd:n 17e0:l 17f0:o 1810:l 1885:n 1887:l 18a9:n 18aa:l 1920:n 1923:l 1927:n 1929:l 1932:n 1933:l",
    "1939:n 1940:o 1946:l 19de:o 1a00:l 1a17:n 1a19:l 1a1b:n 1a1e:l 1a56:n 1a57:l 1a58:n 1a61:l 1a62:n 1a63:l 1a65:n",
    "1a6d:l 1a73:n 1a80:l 1ab0:n 1b04:l 1b34:n 1b35:l 1b36:n 1b3b:l 1b3c:n 1b3d:l 1b42:n 1b43:l 1b6b:n 1b74:l 1b80:n",
    "1b82:l 1ba2:n 1ba6:l 1ba8:n 1baa:l 1bab:n 1bae:l 1be6:n 1be7:l 1be8:n 1bea:l 1bed:n 1bee:l 1bef:n 1bf2:l 1c2c:n",
    "1c34:l 1c36:n 1c3b:l 1cd0:n 1cd3:l 1cd4:n 1ce1:l 1ce2:n 1ce9:l 1ced:n 1cee:l 1cf4:n 1cf5:l 1cf8:n 1cfa:l 1dc0:n",
    "1e01:l 200c:o 20d0:n 2104:o 214e:l 218a:o 2336:l 237b:o 2395:l 2396:o 26ac:l 26ad:o 2800:l 2900:o 2c30:l 2ce5:o",
    "2cec:l 2cef:n 2cf3:l 2cf9:o 2d00:l 2d7f:n 2d80:l 2de0:n 2e00:o 3005:l 3008:o 3021:l 302a:n 302e:l 3030:o 3031:l",
    "3037:o 303b:l 303d:o 3041:l 3099:n 309d:l 30a0:o 30a1:l 30fb:o 30fc:l 31c0:o 31f0:l 4dc0:o 4e00:l a490:o a4d0:l",
    "a60d:o a610:l a66f:n a673:o a674:n a67e:o a681:l a69e:n a6a0:l a6f0:n a6f2:l a700:o a723:l a788:o a789:l a802:n",
    "a803:l a806:n a807:l a80b:n a80c:l a825:n a827:l a828:o a82c:n a830:l a838:o a840:l a874:o a880:l a8c4:n a8ce:l",
    "a8e0:n a8f2:l a8ff:n a900:l a926:n a92e:l a947:n a952:l a980:n a983:l a9b3:n a9b4:l a9b6:n a9ba:l a9bc:n a9be:l",
    "a9e5:n a9e6:l aa29:n aa2f:l aa31:n aa33:l aa35:n aa40:l aa43:n aa44:l aa4c:n aa4d:l aa7c:n aa7d:l aab0:n aab1:l",
    "aab2:n aab5:l aab7:n aab9:l aabe:n aac0:l aac1:n aac2:l aaec:n aaee:l aaf6:n ab01:l ab6a:o abc0:l abe5:n abe6:l",
    "abe8:n abe9:l abed:n abf0:l fb1e:n fbb2:r fbc3:o fe20:n fe45:o fe73:r 10000:l 10101:o 10102:l 10140:o 1018d:l",
    "10190:o 101d0:l 101fd:n 10280:l 102e0:n 102e1:e 10300:l 10376:n 10380:l 10800:r 1091f:o 10920:r 10a01:n 10a10:r",
    "10a38:n 10a40:r 10ae5:n 10aeb:r 10b39:o 10b40:r 10d24:n 10d30:a 10d40:r 10d69:n 10d6e:o 10d6f:r 10e60:a 10e80:r",
    "10eab:n 10ead:r 10ed0:o 10efa:n 10f00:r 10f46:n 10f51:r 10f82:n 10f86:r 11000:l 11001:n 11002:l 11038:n 11047:l",
    "11052:o 11066:l 11070:n 11071:l 11073:n 11075:l 1107f:n 11082:l 110b3:n 110b7:l 110b9:n 110bb:l 110c2:n 110d0:l",
    "11100:n 11103:l 11127:n 1112c:l 1112d:n 11136:l 11173:n 11174:l 11180:n 11182:l 111b6:n 111bf:l 111c9:n 111cd:l",
    "111cf:n 111d0:l 1122f:n 11232:l 11234:n 11235:l 11236:n 11238:l 1123e:n 1123f:l 11241:n 11280:l 112df:n 112e0:l",
    "112e3:n 112f0:l 11300:n 11302:l 1133b:n 1133d:l 11340:n 11341:l 11366:n 11380:l 113bb:n 113c2:l 113ce:n 113cf:l",
    "113d0:n 113d1:l 113d2:n 113d3:l 113e1:n 11400:l 11438:n 11440:l 11442:n 11445:l 11446:n 11447:l 1145e:n 1145f:l",
    "114b3:n 114b9:l 114ba:n 114bb:l 114bf:n 114c1:l 114c2:n 114c4:l 115b2:n 115b8:l 115bc:n 115be:l 115bf:n 115c1:l",
    "115dc:n 11600:l 11633:n 1163b:l 1163d:n 1163e:l 1163f:n 11641:l 11660:o 11680:l 116ab:n 116ac:l 116ad:n 116ae:l",
    "116b0:n 116b6:l 116b7:n 116b8:l 1171d:n 1171e:l 1171f:n 11720:l 11722:n 11726:l 11727:n 11730:l 1182f:n 11838:l",
    "11839:n 1183b:l 1193b:n 1193d:l 1193e:n 1193f:l 11943:n 11944:l 119d4:n 119dc:l 119e0:n 119e1:l 11a01:n 11a07:l",
    "11a09:n 11a0b:l 11a33:n 11a39:l 11a3b:n 11a3f:l 11a47:n 11a50:l 11a51:n 11a57:l 11a59:n 11a5c:l 11a8a:n 11a97:l",
    "11a98:n 11a9a:l 11b60:n 11b61:l 11b62:n 11b65:l 11b66:n 11b67:l 11c30:n 11c3e:l 11c92:n 11ca9:l 11caa:n 11cb1:l",
    "11cb2:n 11cb4:l 11cb5:n 11d00:l 11d31:n 11d46:l 11d47:n 11d50:l 11d90:n 11d93:l 11d95:n 11d96:l 11d97:n 11d98:l",
    "11ef3:n 11ef5:l 11f00:n 11f02:l 11f36:n 11f3e:l 11f40:n 11f41:l 11f42:n 11f43:l 11f5a:n 11fb0:l 11fd5:o 11fff:l",
    "13440:n 13441:l 13447:n 13460:l 1611e:n 1612a:l 1612d:n 16130:l 16af0:n 16af5:l 16b30:n 16b37:l 16f4f:n 16f50:l",
    "16f8f:n 16f93:l 16fe2:o 16fe3:l 16fe4:n 16ff0:l 1bc9d:n 1bc9f:l 1cc00:o 1cf00:n 1cf50:l 1d167:n 1d16a:l 1d17b:n",
    "1d183:l 1d185:n 1d18c:l 1d1aa:n 1d1ae:l 1d1e9:o 1d242:n 1d245:o 1d2c0:l 1d300:o 1d360:l 1da00:n 1da37:l 1da3b:n",
    "1da6d:l 1da75:n 1da76:l 1da84:n 1da85:l 1da9b:n 1df00:l 1e000:n 1e100:l 1e130:n 1e137:l 1e2ae:n 1e2c0:l 1e2ec:n",
    "1e2f0:l 1e2ff:o 1e4d0:l 1e4ec:n 1e4f0:l 1e5ee:n 1e5f0:l 1e6e3:n 1e6e4:l 1e6e6:n 1e6e7:l 1e6ee:n 1e6f0:l 1e6f5:n",
    "1e6fe:l 1e800:r 1e8d0:n 1e922:r 1e944:n 1e94b:r 1eef0:o 1f150:l 1f16d:o 1f170:l 1f1ad:o 1f1e6:l 1f260:o 20000:l"]

/-- how a character is read; a digit is of one of two kinds, and a mark goes along with what it marks -/
inductive Direction where
  | leftToRight
  | rightToLeft
  | arabicDigit
  | plainDigit
  | mark
  | neutral
  deriving DecidableEq, Repr

namespace Direction

def ofLetter : List Char → Direction
  | ['l'] => .leftToRight
  | ['r'] => .rightToLeft
  | ['a'] => .arabicDigit
  | ['e'] => .plainDigit
  | ['n'] => .mark
  | _ => .neutral

/-- the direction of every character -/
def table : Steps Direction := .ofLines .neutral ofLetter directionLines

/-- whether a label with this direction in it makes a domain one that is read from right to left -/
def turnsDomain (d : Direction) : Bool :=
  d = .rightToLeft || d = .arabicDigit

/-- whether a label is read in one direction: it begins with a letter of that direction, holds no letter of the other one, and
ends, marks aside, with a letter or a digit; a label from right to left has digits of one kind only -/
def isOneWay (ds : List Direction) : Bool :=
  let last := (ds.reverse.dropWhile (· = .mark)).head?
  match ds.head? with
  | none => true
  | some .leftToRight => !ds.any turnsDomain && (last = some .leftToRight || last = some .plainDigit)
  | some .rightToLeft =>
    !ds.contains .leftToRight && !(ds.contains .arabicDigit && ds.contains .plainDigit)
      && last.any fun d => d = .rightToLeft || d = .arabicDigit || d = .plainDigit
  | some _ => false

end Direction

/-- the directions of a label's characters -/
def directions (cs : List Char) : List Direction :=
  cs.map Direction.table.value

/-- whether a label makes a domain one that is read from right to left, which no character of ASCII does -/
def turnsDomain (label : List Char) : Bool :=
  label.any fun c => !isAscii c && (Direction.table.value c).turnsDomain

/-- whether a domain's labels can be told from how they are shown -/
def isReadable (labels : List (List Char)) : Bool :=
  !labels.any turnsDomain || labels.all fun label => Direction.isOneWay (directions label)

end TenantGateway.Domain
