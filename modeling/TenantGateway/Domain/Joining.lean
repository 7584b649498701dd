/-
The two characters without a shape that join letters or keep them apart.

They may stand in a domain only where they change how it is written: after a virama, and the one that keeps apart also between
two letters that would be joined.
-/
import TenantGateway.Domain.Composition

namespace TenantGateway.Domain

open Text

/-- from where on which way of joining holds -/
def joiningLines : List String :=
  ["300:t 371:u 483:t 48b:u 591:t 5be:u 5bf:t 5c0:u 5c1:t 5c3:u 5c4:t 5c6:u 5c7:t 5d0:u 610:t 61b:u 620:d 621:u",
    "622:r 626:d 627:r 628:d 629:r 62a:d 62f:r 633:d 640:u 641:d 648:r 649:d 64b:t 660:u 66e:d 670:t 671:r 674:u",
    "679:d 688:r 69a:d 6c0:r 6c1:d 6c3:r 6cc:d 6cd:r 6ce:d 6cf:r 6d0:d 6d2:r 6d4:u 6d5:r 6d6:t 6de:u 6df:t 6e5:u",
    "6e7:t 6e9:u 6ea:t 6ee:r 6f0:u 6fa:d 6fd:u 6ff:d 700:u 710:r 711:t 712:d 715:r 71a:d 71e:r 71f:d 728:r 729:d",
    "72a:r 72b:d 72c:r 72d:d 72f:r 730:t 74d:r 74e:d 759:r 75c:d 76b:r 76d:d 771:r 772:d 773:r 775:d 778:r 77a:d",
    "780:u 7a6:t 7b1:u 7ca:d 7eb:t 7f4:u 7fd:t 7fe:u 816:t 81a:u 81b:t 824:u 825:t 828:u 829:t 830:u 840:r 841:d",
    "846:r 848:d 849:r 84a:d 854:r 855:d 856:r 859:t 85e:u 860:d 861:u 862:d 866:u 867:r 868:d 869:r 883:u 886:d",
    "887:u 889:d 88e:r 88f:d 897:t 8a0:d 8aa:r 8ad:u 8ae:r 8af:d 8b1:r 8b3:d 8b9:r 8ba:d 8c9:u 8ca:t 903:u 93a:t",
    "93b:u 93c:t 93d:u 941:t 949:u 94d:t 94e:u 951:t 960:u 962:t 964:u 981:t 982:u 9bc:t 9bd:u 9c1:t 9c7:u 9cd:t",
    "9ce:u 9e2:t 9e6:u 9fe:t a03:u a3c:t a3e:u a41:t a5c:u a70:t a72:u a75:t a76:u a81:t a83:u abc:t abd:u ac1:t",
    "ac9:u acd:t ad0:u ae2:t ae6:u afa:t b02:u b3c:t b3d:u b3f:t b40:u b41:t b47:u b4d:t b57:u b62:t b66:u b82:t",
    "b83:u bc0:t bc1:u bcd:t bd0:u c00:t c01:u c04:t c05:u c3c:t c3d:u c3e:t c41:u c46:t c58:u c62:t c66:u c81:t",
    "c82:u cbc:t cbd:u cbf:t cc0:u cc6:t cc7:u ccc:t cd5:u ce2:t ce6:u d00:t d02:u d3b:t d3d:u d41:t d46:u d4d:t",
    "d4e:u d62:t d66:u d81:t d82:u dca:t dcf:u dd2:t dd8:u e31:t e32:u e34:t e3f:u e47:t e4f:u eb1:t eb2:u eb4:t",
    "ebd:u ec8:t ed0:u f18:t f1a:u f35:t f36:u f37:t f38:u f39:t f3a:u f71:t f7f:u f80:t f85:u f86:t f88:u f8d:t",
    "fbe:u fc6:t fc7:u 102d:t 1031:u 1032:t 1038:u 1039:t 103b:u 103d:t 103f:u 1058:t 105a:u 105e:t 1061:u 1071:t",
    "1075:u 1082:t 1083:u 1085:t 1087:u 108d:t 108e:u 109d:t 109e:u 135d:t 1360:u 1712:t 1715:u 1732:t 1734:u 1752:t",
    "1760:u 1772:t 1780:u 17b7:t 17be:u 17c6:t 17c7:u 17c9:t 17d4:u 17dd:t 17e0:u 1807:d 1808:u 1820:d 1880:u 1885:t",
    "1887:d 18a9:t 18aa:d 18b0:u 1920:t 1923:u 1927:t 1929:u 1932:t 1933:u 1939:t 1940:u 1a17:t 1a19:u 1a1b:t 1a1e:u",
    "1a56:t 1a57:u 1a58:t 1a61:u 1a62:t 1a63:u 1a65:t 1a6d:u 1a73:t 1a80:u 1ab0:t 1b04:u 1b34:t 1b35:u 1b36:t 1b3b:u",
    "1b3c:t 1b3d:u 1b42:t 1b43:u 1b6b:t 1b74:u 1b80:t 1b82:u 1ba2:t 1ba6:u 1ba8:t 1baa:u 1bab:t 1bae:u 1be6:t 1be7:u",
    "1be8:t 1bea:u 1bed:t 1bee:u 1bef:t 1bf2:u 1c2c:t 1c34:u 1c36:t 1c3b:u 1cd0:t 1cd3:u 1cd4:t 1ce1:u 1ce2:t 1ce9:u",
    "1ced:t 1cee:u 1cf4:t 1cf5:u 1cf8:t 1cfa:u 1dc0:t 1e01:u 20d0:t 2104:u 2cef:t 2cf3:u 2d7f:t 2d80:u 2de0:t 2e00:u",
    "302a:t 302e:u 3099:t 309d:u a66f:t a673:u a674:t a67e:u a69e:t a6a0:u a6f0:t a6f2:u a802:t a803:u a806:t a807:u",
    "a80b:t a80c:u a825:t a827:u a82c:t a830:u a840:d a872:l a873:u a8c4:t a8ce:u a8e0:t a8f2:u a8ff:t a900:u a926:t",
    "a92e:u a947:t a952:u a980:t a983:u a9b3:t a9b4:u a9b6:t a9ba:u a9bc:t a9be:u a9e5:t a9e6:u aa29:t aa2f:u aa31:t",
    "aa33:u aa35:t aa40:u aa43:t aa44:u aa4c:t aa4d:u aa7c:t aa7d:u aab0:t aab1:u aab2:t aab5:u aab7:t aab9:u aabe:t",
    "aac0:u aac1:t aac2:u aaec:t aaee:u aaf6:t ab01:u abe5:t abe6:u abe8:t abe9:u abed:t abf0:u fb1e:t fbb2:u fe20:t",
    "fe45:u 101fd:t 10280:u 102e0:t 102e1:u 10376:t 10380:u 10a01:t 10a10:u 10a38:t 10a40:u 10ac0:d 10ac5:r 10ac6:u",
    "10ac7:r 10ac8:u 10ac9:r 10acb:u 10acd:l 10ace:r 10ad3:d 10ad7:l 10ad8:d 10add:r 10ade:d 10ae1:r 10ae2:u 10ae4:r",
    "10ae5:t 10aeb:d 10aef:r 10af0:u 10b80:d 10b81:r 10b82:d 10b83:r 10b86:d 10b89:r 10b8a:d 10b8c:r 10b8d:d 10b8e:r",
    "10b90:d 10b91:r 10b99:u 10ba9:r 10bad:d 10baf:u 10d00:l 10d01:d 10d22:r 10d23:d 10d24:t 10d30:u 10d69:t 10d6e:u",
    "10eab:t 10ead:u 10ec2:r 10ec3:d 10ec5:u 10ec6:d 10ed0:u 10efa:t 10f00:u 10f30:d 10f33:r 10f34:d 10f45:u 10f46:t",
    "10f51:d 10f54:r 10f55:u 10f70:d 10f74:r 10f76:d 10f82:t 10f86:u 10fb0:d 10fb1:u 10fb2:d 10fb4:r 10fb7:u 10fb8:d",
    "10fb9:r 10fbb:d 10fbd:r 10fbe:d 10fc0:u 10fc1:d 10fc2:r 10fc4:d 10fc5:u 10fc9:r 10fca:d 10fcb:l 10fe0:u 11001:t",
    "11002:u 11038:t 11047:u 11070:t 11071:u 11073:t 11075:u 1107f:t 11082:u 110b3:t 110b7:u 110b9:t 110bb:u 110c2:t",
    "110d0:u 11100:t 11103:u 11127:t 1112c:u 1112d:t 11136:u 11173:t 11174:u 11180:t 11182:u 111b6:t 111bf:u 111c9:t",
    "111cd:u 111cf:t 111d0:u 1122f:t 11232:u 11234:t 11235:u 11236:t 11238:u 1123e:t 1123f:u 11241:t 11280:u 112df:t",
    "112e0:u 112e3:t 112f0:u 11300:t 11302:u 1133b:t 1133d:u 11340:t 11341:u 11366:t 11380:u 113bb:t 113c2:u 113ce:t",
    "113cf:u 113d0:t 113d1:u 113d2:t 113d3:u 113e1:t 11400:u 11438:t 11440:u 11442:t 11445:u 11446:t 11447:u 1145e:t",
    "1145f:u 114b3:t 114b9:u 114ba:t 114bb:u 114bf:t 114c1:u 114c2:t 114c4:u 115b2:t 115b8:u 115bc:t 115be:u 115bf:t",
    "115c1:u 115dc:t 11600:u 11633:t 1163b:u 1163d:t 1163e:u 1163f:t 11641:u 116ab:t 116ac:u 116ad:t 116ae:u 116b0:t",
    "116b6:u 116b7:t 116b8:u 1171d:t 1171e:u 1171f:t 11720:u 11722:t 11726:u 11727:t 11730:u 1182f:t 11838:u 11839:t",
    "1183b:u 1193b:t 1193d:u 1193e:t 1193f:u 11943:t 11944:u 119d4:t 119dc:u 119e0:t 119e1:u 11a01:t 11a0b:u 11a33:t",
    "11a39:u 11a3b:t 11a3f:u 11a47:t 11a50:u 11a51:t 11a57:u 11a59:t 11a5c:u 11a8a:t 11a97:u 11a98:t 11a9a:u 11b60:t",
    "11b61:u 11b62:t 11b65:u 11b66:t 11b67:u 11c30:t 11c3e:u 11c3f:t 11c40:u 11c92:t 11ca9:u 11caa:t 11cb1:u 11cb2:t",
    "11cb4:u 11cb5:t 11d00:u 11d31:t 11d46:u 11d47:t 11d50:u 11d90:t 11d93:u 11d95:t 11d96:u 11d97:t 11d98:u 11ef3:t",
    "11ef5:u 11f00:t 11f02:u 11f36:t 11f3e:u 11f40:t 11f41:u 11f42:t 11f43:u 11f5a:t 11fb0:u 13440:t 13441:u 13447:t",
    "13460:u 1611e:t 1612a:u 1612d:t 16130:u 16af0:t 16af5:u 16b30:t 16b37:u 16f4f:t 16f50:u 16f8f:t 16f93:u 16fe4:t",
    "16ff0:u 1bc9d:t 1bc9f:u 1cf00:t 1cf50:u 1d167:t 1d16a:u 1d17b:t 1d183:u 1d185:t 1d18c:u 1d1aa:t 1d1ae:u 1d242:t",
    "1d245:u 1da00:t 1da37:u 1da3b:t 1da6d:u 1da75:t 1da76:u 1da84:t 1da85:u 1da9b:t 1df00:u 1e000:t 1e100:u 1e130:t",
    "1e137:u 1e2ae:t 1e2c0:u 1e2ec:t 1e2f0:u 1e4ec:t 1e4f0:u 1e5ee:t 1e5f0:u 1e6e3:t 1e6e4:u 1e6e6:t 1e6e7:u 1e6ee:t",
    "1e6f0:u 1e6f5:t 1e6fe:u 1e8d0:t 1e922:d 1e944:t 1e950:u"]

/-- the side on which a letter is joined to another one; what is transparent is passed over -/
inductive Joining where
  | right
  | left
  | both
  | transparent
  | none
  deriving DecidableEq, Repr

namespace Joining

def ofLetter : List Char → Joining
  | ['r'] => .right
  | ['l'] => .left
  | ['d'] => .both
  | ['t'] => .transparent
  | _ => .none

/-- how every character is joined -/
def table : Steps Joining := .ofLines .none ofLetter joiningLines

/-- whether a letter is joined to the one after it -/
def joinsLater (j : Joining) : Bool :=
  j = .left || j = .both

/-- whether a letter is joined to the one before it -/
def joinsEarlier (j : Joining) : Bool :=
  j = .right || j = .both

/-- the first of some characters that is not passed over -/
def ofFirst (cs : List Char) : Joining :=
  ((cs.map table.value).find? (· ≠ .transparent)).getD .none

end Joining

/-- the character that keeps letters apart -/
def nonJoiner : Char := Char.ofNat 0x200C

/-- the character that joins letters -/
def joiner : Char := Char.ofNat 0x200D

/-- the combining class of the viramas, which take away a letter's vowel -/
def viramaClass : Nat := 9

/-- whether the nearest one of the characters before a place is a virama -/
def followsVirama (before : List Char) : Bool :=
  before.head?.any (combiningClass · = viramaClass)

/-- whether a character may stand between those before it, the nearest one first, and those after it -/
def mayStand (before : List Char) (c : Char) (after : List Char) : Bool :=
  if c = joiner then followsVirama before
  else if c = nonJoiner then
    followsVirama before || ((Joining.ofFirst before).joinsLater && (Joining.ofFirst after).joinsEarlier)
  else true

/-- whether every character of a label may stand where it does; `before` are those already looked at -/
def hasOnlyUsefulJoiners (before : List Char) : List Char → Bool
  | [] => true
  | c :: rest => mayStand before c rest && hasOnlyUsefulJoiners (c :: before) rest

end TenantGateway.Domain
