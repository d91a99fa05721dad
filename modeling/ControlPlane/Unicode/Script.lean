import ControlPlane.Unicode.Span

/-! Direction and joining behaviour of characters, as the rules for host labels use them. -/

namespace ControlPlane.Unicode

/-- The direction classes: 1 R, 2 AL, 3 AN, 4 EN, 5 ES, 6 CS, 7 ET, 8 ON, 9 BN, 10 NSM, 11 others.

A character that is not listed has class 0, L. -/
def directionClasses : Table := Table.ofText
  "0-8:9 9-d:b e-1b:9 1c-20:b 21-22:8 23-25:7 26-2a:8 2b:5 2c:6 2d:5 2e-2f:6 30-39:4 3a:6 3b-60:8
   7b-7e:8 7f:9 a1:8 a2-a5:7 a6-ae:8 b0-b1:7 b6-d7:8 f7:8 2b9-2ba:8 2c2-2cf:8 2d2-2ed:8 2ef-2ff:8
   300-36f:a 375:8 3f6:8 483-489:a 58a-58e:8 58f:7 591-5bd:a 5be:1 5bf:a 5c0:1 5c1-5c2:a 5c3:1
   5c4-5c5:a 5c6:1 5c7:a 5d0-5f4:1 606-607:8 608:2 609-60a:7 60b:2 60c:6 60d:2 60e-60f:8
   610-61a:a 61b-64a:2 64b-65f:a 660-669:3 66a:7 66b-66c:3 66d-66f:2 670:a 671-6d5:2 6d6-6dc:a
   6de:8 6df-6e4:a 6e5-6e6:2 6e7-6e8:a 6e9:8 6ea-6ed:a 6ee-6ef:2 6f0-6f9:4 6fa-710:2 711:a
   712-72f:2 730-74a:a 74d-7a5:2 7a6-7b0:a 7b1:2 7c0-7ea:1 7eb-7f3:a 7f4-7f5:1 7f6-7f9:8 7fa:1
   7fd:a 7fe-815:1 816-819:a 81a:1 81b-823:a 824:1 825-827:a 828:1 829-82d:a 830-858:1 859-85b:a
   85e:1 860-88e:2 898-89f:a 8a0-8c9:2 8ca-902:a 93a:a 93c:a 941-948:a 94d:a 951-957:a 962-963:a
   981:a 9bc:a 9c1-9c4:a 9cd:a 9e2-9e3:a 9f2-9f3:7 9fb:7 9fe-a02:a a3c:a a41-a51:a a70-a71:a
   a75:a a81-a82:a abc:a ac1-ac8:a acd:a ae2-ae3:a af1:7 afa-b01:a b3c:a b3f:a b41-b44:a
   b4d-b56:a b62-b63:a b82:a bc0:a bcd:a bf3-bf8:8 bf9:7 bfa:8 c00:a c04:a c3c:a c3e-c40:a
   c46-c56:a c62-c63:a c78-c7e:8 c81:a cbc:a ccc-ccd:a ce2-ce3:a d00-d01:a d3b-d3c:a d41-d44:a
   d4d:a d62-d63:a d81:a dca:a dd2-dd6:a e31:a e34-e3a:a e3f:7 e47-e4e:a eb1:a eb4-ebc:a
   ec8-ecd:a f18-f19:a f35:a f37:a f39:a f3a-f3d:8 f71-f7e:a f80-f84:a f86-f87:a f8d-fbc:a fc6:a
   102d-1030:a 1032-1037:a 1039-103a:a 103d-103e:a 1058-1059:a 105e-1060:a 1071-1074:a 1082:a
   1085-1086:a 108d:a 109d:a 135d-135f:a 1390-1399:8 1400:8 169b-169c:8 1712-1714:a 1732-1733:a
   1752-1753:a 1772-1773:a 17b7-17bd:a 17c6:a 17c9-17d3:a 17db:7 17dd:a 17f0-180a:8 1885-1886:a
   18a9:a 1920-1922:a 1927-1928:a 1932:a 1939-193b:a 1940-1945:8 19de-19ff:8 1a17-1a18:a 1a1b:a
   1a56:a 1a58-1a60:a 1a62:a 1a65-1a6c:a 1a73-1a7f:a 1ab0-1ace:a 1b00-1b03:a 1b34:a 1b36-1b3a:a
   1b3c:a 1b42:a 1b6b-1b73:a 1b80-1b81:a 1ba2-1ba5:a 1ba8-1ba9:a 1bab-1bad:a 1be6:a 1be8-1be9:a
   1bed:a 1bef-1bf1:a 1c2c-1c33:a 1c36-1c37:a 1cd0-1cd2:a 1cd4-1ce0:a 1ce2-1ce8:a 1ced:a 1cf4:a
   1cf8-1cf9:a 1dc0-1dff:a 200c-200d:9 2010-2027:8 2030-2032:7 2035-2043:8 2044:6 2045-205e:8
   20a0-20c0:7 20d0-20f0:a 2104-2129:8 212e:7 213a-214d:8 218a-2211:8 2212:5 2213:7 2214-2335:8
   237b-2394:8 2396-2426:8 2440-26ab:8 26ad-27ff:8 2900-2b95:8 2b97-2bff:8 2ce5-2cea:8
   2cef-2cf1:a 2cf9-2cff:8 2d7f:a 2de0-2dff:a 2e00-3004:8 3008-3020:8 302a-302d:a 3030:8 3037:8
   303d-303f:8 3099-309a:a 30a0:8 30fb:8 31c0-31e3:8 4dc0-4dff:8 a490-a4c6:8 a60d-a60f:8
   a66f-a672:a a673:8 a674-a67d:a a67e-a67f:8 a69e-a69f:a a6f0-a6f1:a a700-a721:8 a788:8 a802:a
   a806:a a80b:a a825-a826:a a828-a82b:8 a82c:a a838-a839:7 a874-a877:8 a8c4-a8c5:a a8e0-a8f1:a
   a8ff:a a926-a92d:a a947-a951:a a980-a982:a a9b3:a a9b6-a9b9:a a9bc-a9bd:a a9e5:a aa29-aa2e:a
   aa31-aa32:a aa35-aa36:a aa43:a aa4c:a aa7c:a aab0:a aab2-aab4:a aab7-aab8:a aabe-aabf:a aac1:a
   aaec-aaed:a aaf6:a ab6a-ab6b:8 abe5:a abe8:a abed:a fb1e:a fbb2-fbc2:2 fd3e-fd4f:8 fdcf-fdff:8
   fe20-fe2f:a fe45-fe46:8 fe73:2 10101:8 10140-1018c:8 10190-101a0:8 101fd:a 102e0:a
   102e1-102fb:4 10376-1037a:a 10800-1091b:1 1091f:8 10920-1093f:1 10980-10a00:1 10a01-10a0f:a
   10a10-10a35:1 10a38-10a3f:a 10a40-10ae4:1 10ae5-10ae6:a 10aeb-10b35:1 10b39-10b3f:8
   10b40-10cff:1 10d00-10d23:2 10d24-10d27:a 10d30-10d39:3 10e60-10e7e:3 10e80-10ea9:1
   10eab-10eac:a 10ead-10eb1:1 10f00-10f27:1 10f30-10f45:2 10f46-10f50:a 10f51-10f59:2
   10f70-10f81:1 10f82-10f85:a 10f86-10ff6:1 11001:a 11038-11046:a 11052-11065:8 11070:a
   11073-11074:a 1107f-11081:a 110b3-110b6:a 110b9-110ba:a 110c2:a 11100-11102:a 11127-1112b:a
   1112d-11134:a 11173:a 11180-11181:a 111b6-111be:a 111c9-111cc:a 111cf:a 1122f-11231:a 11234:a
   11236-11237:a 1123e:a 112df:a 112e3-112ea:a 11300-11301:a 1133b-1133c:a 11340:a 11366-11374:a
   11438-1143f:a 11442-11444:a 11446:a 1145e:a 114b3-114b8:a 114ba:a 114bf-114c0:a 114c2-114c3:a
   115b2-115b5:a 115bc-115bd:a 115bf-115c0:a 115dc-115dd:a 11633-1163a:a 1163d:a 1163f-11640:a
   11660-1166c:8 116ab:a 116ad:a 116b0-116b5:a 116b7:a 1171d-1171f:a 11722-11725:a 11727-1172b:a
   1182f-11837:a 11839-1183a:a 1193b-1193c:a 1193e:a 11943:a 119d4-119db:a 119e0:a 11a01-11a06:a
   11a09-11a0a:a 11a33-11a38:a 11a3b-11a3e:a 11a47:a 11a51-11a56:a 11a59-11a5b:a 11a8a-11a96:a
   11a98-11a99:a 11c30-11c3d:a 11c92-11ca7:a 11caa-11cb0:a 11cb2-11cb3:a 11cb5-11cb6:a
   11d31-11d45:a 11d47:a 11d90-11d91:a 11d95:a 11d97:a 11ef3-11ef4:a 11fd5-11fdc:8 11fdd-11fe0:7
   11fe1-11ff1:8 16af0-16af4:a 16b30-16b36:a 16f4f:a 16f8f-16f92:a 16fe2:8 16fe4:a 1bc9d-1bc9e:a
   1cf00-1cf46:a 1d167-1d169:a 1d17b-1d182:a 1d185-1d18b:a 1d1aa-1d1ad:a 1d1e9-1d241:8
   1d242-1d244:a 1d245:8 1d300-1d356:8 1da00-1da36:a 1da3b-1da6c:a 1da75:a 1da84:a 1da9b-1daaf:a
   1e000-1e02a:a 1e130-1e136:a 1e2ae:a 1e2ec-1e2ef:a 1e2ff:7 1e800-1e8cf:1 1e8d0-1e8d6:a
   1e922-1e943:1 1e944-1e94a:a 1e94b-1e95f:1 1ec71-1ed3d:2 1eef0-1f12f:8 1f16d-1f16f:8 1f1ad:8
   1f260-1f6d7:8 1f6dd-1f773:8 1f780-1f7d8:8 1f7e0-1f8b1:8 1f900-1fa53:8 1fa60-1fa74:8
   1fa78-1fa86:8 1fa90-1faac:8 1fab0-1faba:8 1fac0-1fac5:8 1fad0-1fad9:8 1fae0-1fae7:8
   1faf0-1faf6:8 1fb00-1fbca:8"

/-- The joining types: 1 C, 2 D, 3 L, 4 R, 5 T. -/
def joiningTypes : Table := Table.ofText
  "ad:5 300-36f:5 483-489:5 591-5bd:5 5bf:5 5c1-5c2:5 5c4-5c5:5 5c7:5 610-61a:5 61c:5 620:2
   622-625:4 626:2 627:4 628:2 629:4 62a-62e:2 62f-632:4 633-63f:2 640:1 641-647:2 648:4
   649-64a:2 64b-65f:5 66e-66f:2 670:5 671-673:4 675-677:4 678-687:2 688-699:4 69a-6bf:2 6c0:4
   6c1-6c2:2 6c3-6cb:4 6cc:2 6cd:4 6ce:2 6cf:4 6d0-6d1:2 6d2-6d3:4 6d5:4 6d6-6dc:5 6df-6e4:5
   6e7-6e8:5 6ea-6ed:5 6ee-6ef:4 6fa-6fc:2 6ff:2 70f:5 710:4 711:5 712-714:2 715-719:4 71a-71d:2
   71e:4 71f-727:2 728:4 729:2 72a:4 72b:2 72c:4 72d-72e:2 72f:4 730-74a:5 74d:4 74e-758:2
   759-75b:4 75c-76a:2 76b-76c:4 76d-770:2 771:4 772:2 773-774:4 775-777:2 778-779:4 77a-77f:2
   7a6-7b0:5 7ca-7ea:2 7eb-7f3:5 7fa:1 7fd:5 816-819:5 81b-823:5 825-827:5 829-82d:5 840:4
   841-845:2 846-847:4 848:2 849:4 84a-853:2 854:4 855:2 856-858:4 859-85b:5 860:2 862-865:2
   867:4 868:2 869-86a:4 870-882:4 883-885:1 886:2 889-88d:2 88e:4 88f:2 897-89f:5 8a0-8a9:2
   8aa-8ac:4 8ae:4 8af-8b0:2 8b1-8b2:4 8b3-8b8:2 8b9:4 8ba-8c8:2 8ca-8e1:5 8e3-902:5 93a:5 93c:5
   941-948:5 94d:5 951-957:5 962-963:5 981:5 9bc:5 9c1-9c4:5 9cd:5 9e2-9e3:5 9fe:5 a01-a02:5
   a3c:5 a41-a42:5 a47-a48:5 a4b-a4d:5 a51:5 a70-a71:5 a75:5 a81-a82:5 abc:5 ac1-ac5:5 ac7-ac8:5
   acd:5 ae2-ae3:5 afa-aff:5 b01:5 b3c:5 b3f:5 b41-b44:5 b4d:5 b55-b56:5 b62-b63:5 b82:5 bc0:5
   bcd:5 c00:5 c04:5 c3c:5 c3e-c40:5 c46-c48:5 c4a-c4d:5 c55-c56:5 c62-c63:5 c81:5 cbc:5 cbf:5
   cc6:5 ccc-ccd:5 ce2-ce3:5 d00-d01:5 d3b-d3c:5 d41-d44:5 d4d:5 d62-d63:5 d81:5 dca:5 dd2-dd4:5
   dd6:5 e31:5 e34-e3a:5 e47-e4e:5 eb1:5 eb4-ebc:5 ec8-ece:5 f18-f19:5 f35:5 f37:5 f39:5
   f71-f7e:5 f80-f84:5 f86-f87:5 f8d-f97:5 f99-fbc:5 fc6:5 102d-1030:5 1032-1037:5 1039-103a:5
   103d-103e:5 1058-1059:5 105e-1060:5 1071-1074:5 1082:5 1085-1086:5 108d:5 109d:5 135d-135f:5
   1712-1714:5 1732-1733:5 1752-1753:5 1772-1773:5 17b4-17b5:5 17b7-17bd:5 17c6:5 17c9-17d3:5
   17dd:5 1807:2 180a:1 180b-180d:5 180f:5 1820-1878:2 1885-1886:5 1887-18a8:2 18a9:5 18aa:2
   1920-1922:5 1927-1928:5 1932:5 1939-193b:5 1a17-1a18:5 1a1b:5 1a56:5 1a58-1a5e:5 1a60:5 1a62:5
   1a65-1a6c:5 1a73-1a7c:5 1a7f:5 1ab0-1add:5 1ae0-1aeb:5 1b00-1b03:5 1b34:5 1b36-1b3a:5 1b3c:5
   1b42:5 1b6b-1b73:5 1b80-1b81:5 1ba2-1ba5:5 1ba8-1ba9:5 1bab-1bad:5 1be6:5 1be8-1be9:5 1bed:5
   1bef-1bf1:5 1c2c-1c33:5 1c36-1c37:5 1cd0-1cd2:5 1cd4-1ce0:5 1ce2-1ce8:5 1ced:5 1cf4:5
   1cf8-1cf9:5 1dc0-1dff:5 200b:5 200d:1 200e-200f:5 202a-202e:5 2060-2064:5 206a-206f:5
   20d0-20f0:5 2cef-2cf1:5 2d7f:5 2de0-2dff:5 302a-302d:5 3099-309a:5 a66f-a672:5 a674-a67d:5
   a69e-a69f:5 a6f0-a6f1:5 a802:5 a806:5 a80b:5 a825-a826:5 a82c:5 a840-a871:2 a872:3 a8c4-a8c5:5
   a8e0-a8f1:5 a8ff:5 a926-a92d:5 a947-a951:5 a980-a982:5 a9b3:5 a9b6-a9b9:5 a9bc-a9bd:5 a9e5:5
   aa29-aa2e:5 aa31-aa32:5 aa35-aa36:5 aa43:5 aa4c:5 aa7c:5 aab0:5 aab2-aab4:5 aab7-aab8:5
   aabe-aabf:5 aac1:5 aaec-aaed:5 aaf6:5 abe5:5 abe8:5 abed:5 fb1e:5 fe00-fe0f:5 fe20-fe2f:5
   feff:5 fff9-fffb:5 101fd:5 102e0:5 10376-1037a:5 10a01-10a03:5 10a05-10a06:5 10a0c-10a0f:5
   10a38-10a3a:5 10a3f:5 10ac0-10ac4:2 10ac5:4 10ac7:4 10ac9-10aca:4 10acd:3 10ace-10ad2:4
   10ad3-10ad6:2 10ad7:3 10ad8-10adc:2 10add:4 10ade-10ae0:2 10ae1:4 10ae4:4 10ae5-10ae6:5
   10aeb-10aee:2 10aef:4 10b80:2 10b81:4 10b82:2 10b83-10b85:4 10b86-10b88:2 10b89:4
   10b8a-10b8b:2 10b8c:4 10b8d:2 10b8e-10b8f:4 10b90:2 10b91:4 10ba9-10bac:4 10bad-10bae:2
   10d00:3 10d01-10d21:2 10d22:4 10d23:2 10d24-10d27:5 10d69-10d6d:5 10eab-10eac:5 10ec2:4
   10ec3-10ec4:2 10ec6-10ec7:2 10efa-10eff:5 10f30-10f32:2 10f33:4 10f34-10f44:2 10f46-10f50:5
   10f51-10f53:2 10f54:4 10f70-10f73:2 10f74-10f75:4 10f76-10f81:2 10f82-10f85:5 10fb0:2
   10fb2-10fb3:2 10fb4-10fb6:4 10fb8:2 10fb9-10fba:4 10fbb-10fbc:2 10fbd:4 10fbe-10fbf:2 10fc1:2
   10fc2-10fc3:4 10fc4:2 10fc9:4 10fca:2 10fcb:3 11001:5 11038-11046:5 11070:5 11073-11074:5
   1107f-11081:5 110b3-110b6:5 110b9-110ba:5 110c2:5 11100-11102:5 11127-1112b:5 1112d-11134:5
   11173:5 11180-11181:5 111b6-111be:5 111c9-111cc:5 111cf:5 1122f-11231:5 11234:5 11236-11237:5
   1123e:5 11241:5 112df:5 112e3-112ea:5 11300-11301:5 1133b-1133c:5 11340:5 11366-1136c:5
   11370-11374:5 113bb-113c0:5 113ce:5 113d0:5 113d2:5 113e1-113e2:5 11438-1143f:5 11442-11444:5
   11446:5 1145e:5 114b3-114b8:5 114ba:5 114bf-114c0:5 114c2-114c3:5 115b2-115b5:5 115bc-115bd:5
   115bf-115c0:5 115dc-115dd:5 11633-1163a:5 1163d:5 1163f-11640:5 116ab:5 116ad:5 116b0-116b5:5
   116b7:5 1171d:5 1171f:5 11722-11725:5 11727-1172b:5 1182f-11837:5 11839-1183a:5 1193b-1193c:5
   1193e:5 11943:5 119d4-119d7:5 119da-119db:5 119e0:5 11a01-11a0a:5 11a33-11a38:5 11a3b-11a3e:5
   11a47:5 11a51-11a56:5 11a59-11a5b:5 11a8a-11a96:5 11a98-11a99:5 11b60:5 11b62-11b64:5 11b66:5
   11c30-11c36:5 11c38-11c3d:5 11c3f:5 11c92-11ca7:5 11caa-11cb0:5 11cb2-11cb3:5 11cb5-11cb6:5
   11d31-11d36:5 11d3a:5 11d3c-11d3d:5 11d3f-11d45:5 11d47:5 11d90-11d91:5 11d95:5 11d97:5
   11ef3-11ef4:5 11f00-11f01:5 11f36-11f3a:5 11f40:5 11f42:5 11f5a:5 13430-13440:5 13447-13455:5
   1611e-16129:5 1612d-1612f:5 16af0-16af4:5 16b30-16b36:5 16f4f:5 16f8f-16f92:5 16fe4:5
   1bc9d-1bc9e:5 1bca0-1bca3:5 1cf00-1cf2d:5 1cf30-1cf46:5 1d167-1d169:5 1d173-1d182:5
   1d185-1d18b:5 1d1aa-1d1ad:5 1d242-1d244:5 1da00-1da36:5 1da3b-1da6c:5 1da75:5 1da84:5
   1da9b-1da9f:5 1daa1-1daaf:5 1e000-1e006:5 1e008-1e018:5 1e01b-1e021:5 1e023-1e024:5
   1e026-1e02a:5 1e08f:5 1e130-1e136:5 1e2ae:5 1e2ec-1e2ef:5 1e4ec-1e4ef:5 1e5ee-1e5ef:5 1e6e3:5
   1e6e6:5 1e6ee-1e6ef:5 1e6f5:5 1e8d0-1e8d6:5 1e900-1e943:2 1e944-1e94b:5 e0001:5 e0020-e007f:5
   e0100-e01ef:5"

end ControlPlane.Unicode
