import RegexExplainer.CharSet

/- The general categories of punctuation and of symbols. -/
namespace RegexExplainer.Unicode

def connectorPunctuation : CharSet :=
  ⟨[⟨0x5F, 0x5F⟩, ⟨0x203F, 0x2040⟩, ⟨0x2054, 0x2054⟩, ⟨0xFE33, 0xFE34⟩, ⟨0xFE4D, 0xFE4F⟩,
    ⟨0xFF3F, 0xFF3F⟩]⟩

def dashPunctuation : CharSet :=
  ⟨[⟨0x2D, 0x2D⟩, ⟨0x58A, 0x58A⟩, ⟨0x5BE, 0x5BE⟩, ⟨0x1400, 0x1400⟩, ⟨0x1806, 0x1806⟩,
    ⟨0x2010, 0x2015⟩, ⟨0x2E17, 0x2E17⟩, ⟨0x2E1A, 0x2E1A⟩, ⟨0x2E3A, 0x2E3B⟩, ⟨0x2E40, 0x2E40⟩,
    ⟨0x2E5D, 0x2E5D⟩, ⟨0x301C, 0x301C⟩, ⟨0x3030, 0x3030⟩, ⟨0x30A0, 0x30A0⟩, ⟨0xFE31, 0xFE32⟩,
    ⟨0xFE58, 0xFE58⟩, ⟨0xFE63, 0xFE63⟩, ⟨0xFF0D, 0xFF0D⟩, ⟨0x10D6E, 0x10D6E⟩, ⟨0x10EAD, 0x10EAD⟩]⟩

def openPunctuation : CharSet :=
  ⟨[⟨0x28, 0x28⟩, ⟨0x5B, 0x5B⟩, ⟨0x7B, 0x7B⟩, ⟨0xF3A, 0xF3A⟩, ⟨0xF3C, 0xF3C⟩, ⟨0x169B, 0x169B⟩,
    ⟨0x201A, 0x201A⟩, ⟨0x201E, 0x201E⟩, ⟨0x2045, 0x2045⟩, ⟨0x207D, 0x207D⟩, ⟨0x208D, 0x208D⟩,
    ⟨0x2308, 0x2308⟩, ⟨0x230A, 0x230A⟩, ⟨0x2329, 0x2329⟩, ⟨0x2768, 0x2768⟩, ⟨0x276A, 0x276A⟩,
    ⟨0x276C, 0x276C⟩, ⟨0x276E, 0x276E⟩, ⟨0x2770, 0x2770⟩, ⟨0x2772, 0x2772⟩, ⟨0x2774, 0x2774⟩,
    ⟨0x27C5, 0x27C5⟩, ⟨0x27E6, 0x27E6⟩, ⟨0x27E8, 0x27E8⟩, ⟨0x27EA, 0x27EA⟩, ⟨0x27EC, 0x27EC⟩,
    ⟨0x27EE, 0x27EE⟩, ⟨0x2983, 0x2983⟩, ⟨0x2985, 0x2985⟩, ⟨0x2987, 0x2987⟩, ⟨0x2989, 0x2989⟩,
    ⟨0x298B, 0x298B⟩, ⟨0x298D, 0x298D⟩, ⟨0x298F, 0x298F⟩, ⟨0x2991, 0x2991⟩, ⟨0x2993, 0x2993⟩,
    ⟨0x2995, 0x2995⟩, ⟨0x2997, 0x2997⟩, ⟨0x29D8, 0x29D8⟩, ⟨0x29DA, 0x29DA⟩, ⟨0x29FC, 0x29FC⟩,
    ⟨0x2E22, 0x2E22⟩, ⟨0x2E24, 0x2E24⟩, ⟨0x2E26, 0x2E26⟩, ⟨0x2E28, 0x2E28⟩, ⟨0x2E42, 0x2E42⟩,
    ⟨0x2E55, 0x2E55⟩, ⟨0x2E57, 0x2E57⟩, ⟨0x2E59, 0x2E59⟩, ⟨0x2E5B, 0x2E5B⟩, ⟨0x3008, 0x3008⟩,
    ⟨0x300A, 0x300A⟩, ⟨0x300C, 0x300C⟩, ⟨0x300E, 0x300E⟩, ⟨0x3010, 0x3010⟩, ⟨0x3014, 0x3014⟩,
    ⟨0x3016, 0x3016⟩, ⟨0x3018, 0x3018⟩, ⟨0x301A, 0x301A⟩, ⟨0x301D, 0x301D⟩, ⟨0xFD3F, 0xFD3F⟩,
    ⟨0xFE17, 0xFE17⟩, ⟨0xFE35, 0xFE35⟩, ⟨0xFE37, 0xFE37⟩, ⟨0xFE39, 0xFE39⟩, ⟨0xFE3B, 0xFE3B⟩,
    ⟨0xFE3D, 0xFE3D⟩, ⟨0xFE3F, 0xFE3F⟩, ⟨0xFE41, 0xFE41⟩, ⟨0xFE43, 0xFE43⟩, ⟨0xFE47, 0xFE47⟩,
    ⟨0xFE59, 0xFE59⟩, ⟨0xFE5B, 0xFE5B⟩, ⟨0xFE5D, 0xFE5D⟩, ⟨0xFF08, 0xFF08⟩, ⟨0xFF3B, 0xFF3B⟩,
    ⟨0xFF5B, 0xFF5B⟩, ⟨0xFF5F, 0xFF5F⟩, ⟨0xFF62, 0xFF62⟩]⟩

def closePunctuation : CharSet :=
  ⟨[⟨0x29, 0x29⟩, ⟨0x5D, 0x5D⟩, ⟨0x7D, 0x7D⟩, ⟨0xF3B, 0xF3B⟩, ⟨0xF3D, 0xF3D⟩, ⟨0x169C, 0x169C⟩,
    ⟨0x2046, 0x2046⟩, ⟨0x207E, 0x207E⟩, ⟨0x208E, 0x208E⟩, ⟨0x2309, 0x2309⟩, ⟨0x230B, 0x230B⟩,
    ⟨0x232A, 0x232A⟩, ⟨0x2769, 0x2769⟩, ⟨0x276B, 0x276B⟩, ⟨0x276D, 0x276D⟩, ⟨0x276F, 0x276F⟩,
    ⟨0x2771, 0x2771⟩, ⟨0x2773, 0x2773⟩, ⟨0x2775, 0x2775⟩, ⟨0x27C6, 0x27C6⟩, ⟨0x27E7, 0x27E7⟩,
    ⟨0x27E9, 0x27E9⟩, ⟨0x27EB, 0x27EB⟩, ⟨0x27ED, 0x27ED⟩, ⟨0x27EF, 0x27EF⟩, ⟨0x2984, 0x2984⟩,
    ⟨0x2986, 0x2986⟩, ⟨0x2988, 0x2988⟩, ⟨0x298A, 0x298A⟩, ⟨0x298C, 0x298C⟩, ⟨0x298E, 0x298E⟩,
    ⟨0x2990, 0x2990⟩, ⟨0x2992, 0x2992⟩, ⟨0x2994, 0x2994⟩, ⟨0x2996, 0x2996⟩, ⟨0x2998, 0x2998⟩,
    ⟨0x29D9, 0x29D9⟩, ⟨0x29DB, 0x29DB⟩, ⟨0x29FD, 0x29FD⟩, ⟨0x2E23, 0x2E23⟩, ⟨0x2E25, 0x2E25⟩,
    ⟨0x2E27, 0x2E27⟩, ⟨0x2E29, 0x2E29⟩, ⟨0x2E56, 0x2E56⟩, ⟨0x2E58, 0x2E58⟩, ⟨0x2E5A, 0x2E5A⟩,
    ⟨0x2E5C, 0x2E5C⟩, ⟨0x3009, 0x3009⟩, ⟨0x300B, 0x300B⟩, ⟨0x300D, 0x300D⟩, ⟨0x300F, 0x300F⟩,
    ⟨0x3011, 0x3011⟩, ⟨0x3015, 0x3015⟩, ⟨0x3017, 0x3017⟩, ⟨0x3019, 0x3019⟩, ⟨0x301B, 0x301B⟩,
    ⟨0x301E, 0x301F⟩, ⟨0xFD3E, 0xFD3E⟩, ⟨0xFE18, 0xFE18⟩, ⟨0xFE36, 0xFE36⟩, ⟨0xFE38, 0xFE38⟩,
    ⟨0xFE3A, 0xFE3A⟩, ⟨0xFE3C, 0xFE3C⟩, ⟨0xFE3E, 0xFE3E⟩, ⟨0xFE40, 0xFE40⟩, ⟨0xFE42, 0xFE42⟩,
    ⟨0xFE44, 0xFE44⟩, ⟨0xFE48, 0xFE48⟩, ⟨0xFE5A, 0xFE5A⟩, ⟨0xFE5C, 0xFE5C⟩, ⟨0xFE5E, 0xFE5E⟩,
    ⟨0xFF09, 0xFF09⟩, ⟨0xFF3D, 0xFF3D⟩, ⟨0xFF5D, 0xFF5D⟩, ⟨0xFF60, 0xFF60⟩, ⟨0xFF63, 0xFF63⟩]⟩

def initialPunctuation : CharSet :=
  ⟨[⟨0xAB, 0xAB⟩, ⟨0x2018, 0x2018⟩, ⟨0x201B, 0x201C⟩, ⟨0x201F, 0x201F⟩, ⟨0x2039, 0x2039⟩,
    ⟨0x2E02, 0x2E02⟩, ⟨0x2E04, 0x2E04⟩, ⟨0x2E09, 0x2E09⟩, ⟨0x2E0C, 0x2E0C⟩, ⟨0x2E1C, 0x2E1C⟩,
    ⟨0x2E20, 0x2E20⟩]⟩

def finalPunctuation : CharSet :=
  ⟨[⟨0xBB, 0xBB⟩, ⟨0x2019, 0x2019⟩, ⟨0x201D, 0x201D⟩, ⟨0x203A, 0x203A⟩, ⟨0x2E03, 0x2E03⟩,
    ⟨0x2E05, 0x2E05⟩, ⟨0x2E0A, 0x2E0A⟩, ⟨0x2E0D, 0x2E0D⟩, ⟨0x2E1D, 0x2E1D⟩, ⟨0x2E21, 0x2E21⟩]⟩

def otherPunctuation : CharSet :=
  ⟨[⟨0x21, 0x23⟩, ⟨0x25, 0x27⟩, ⟨0x2A, 0x2A⟩, ⟨0x2C, 0x2C⟩, ⟨0x2E, 0x2F⟩, ⟨0x3A, 0x3B⟩,
    ⟨0x3F, 0x40⟩, ⟨0x5C, 0x5C⟩, ⟨0xA1, 0xA1⟩, ⟨0xA7, 0xA7⟩, ⟨0xB6, 0xB7⟩, ⟨0xBF, 0xBF⟩,
    ⟨0x37E, 0x37E⟩, ⟨0x387, 0x387⟩, ⟨0x55A, 0x55F⟩, ⟨0x589, 0x589⟩, ⟨0x5C0, 0x5C0⟩,
    ⟨0x5C3, 0x5C3⟩, ⟨0x5C6, 0x5C6⟩, ⟨0x5F3, 0x5F4⟩, ⟨0x609, 0x60A⟩, ⟨0x60C, 0x60D⟩,
    ⟨0x61B, 0x61B⟩, ⟨0x61D, 0x61F⟩, ⟨0x66A, 0x66D⟩, ⟨0x6D4, 0x6D4⟩, ⟨0x700, 0x70D⟩,
    ⟨0x7F7, 0x7F9⟩, ⟨0x830, 0x83E⟩, ⟨0x85E, 0x85E⟩, ⟨0x964, 0x965⟩, ⟨0x970, 0x970⟩,
    ⟨0x9FD, 0x9FD⟩, ⟨0xA76, 0xA76⟩, ⟨0xAF0, 0xAF0⟩, ⟨0xC77, 0xC77⟩, ⟨0xC84, 0xC84⟩,
    ⟨0xDF4, 0xDF4⟩, ⟨0xE4F, 0xE4F⟩, ⟨0xE5A, 0xE5B⟩, ⟨0xF04, 0xF12⟩, ⟨0xF14, 0xF14⟩,
    ⟨0xF85, 0xF85⟩, ⟨0xFD0, 0xFD4⟩, ⟨0xFD9, 0xFDA⟩, ⟨0x104A, 0x104F⟩, ⟨0x10FB, 0x10FB⟩,
    ⟨0x1360, 0x1368⟩, ⟨0x166E, 0x166E⟩, ⟨0x16EB, 0x16ED⟩, ⟨0x1735, 0x1736⟩, ⟨0x17D4, 0x17D6⟩,
    ⟨0x17D8, 0x17DA⟩, ⟨0x1800, 0x1805⟩, ⟨0x1807, 0x180A⟩, ⟨0x1944, 0x1945⟩, ⟨0x1A1E, 0x1A1F⟩,
    ⟨0x1AA0, 0x1AA6⟩, ⟨0x1AA8, 0x1AAD⟩, ⟨0x1B4E, 0x1B4F⟩, ⟨0x1B5A, 0x1B60⟩, ⟨0x1B7D, 0x1B7F⟩,
    ⟨0x1BFC, 0x1BFF⟩, ⟨0x1C3B, 0x1C3F⟩, ⟨0x1C7E, 0x1C7F⟩, ⟨0x1CC0, 0x1CC7⟩, ⟨0x1CD3, 0x1CD3⟩,
    ⟨0x2016, 0x2017⟩, ⟨0x2020, 0x2027⟩, ⟨0x2030, 0x2038⟩, ⟨0x203B, 0x203E⟩, ⟨0x2041, 0x2043⟩,
    ⟨0x2047, 0x2051⟩, ⟨0x2053, 0x2053⟩, ⟨0x2055, 0x205E⟩, ⟨0x2CF9, 0x2CFC⟩, ⟨0x2CFE, 0x2CFF⟩,
    ⟨0x2D70, 0x2D70⟩, ⟨0x2E00, 0x2E01⟩, ⟨0x2E06, 0x2E08⟩, ⟨0x2E0B, 0x2E0B⟩, ⟨0x2E0E, 0x2E16⟩,
    ⟨0x2E18, 0x2E19⟩, ⟨0x2E1B, 0x2E1B⟩, ⟨0x2E1E, 0x2E1F⟩, ⟨0x2E2A, 0x2E2E⟩, ⟨0x2E30, 0x2E39⟩,
    ⟨0x2E3C, 0x2E3F⟩, ⟨0x2E41, 0x2E41⟩, ⟨0x2E43, 0x2E4F⟩, ⟨0x2E52, 0x2E54⟩, ⟨0x3001, 0x3003⟩,
    ⟨0x303D, 0x303D⟩, ⟨0x30FB, 0x30FB⟩, ⟨0xA4FE, 0xA4FF⟩, ⟨0xA60D, 0xA60F⟩, ⟨0xA673, 0xA673⟩,
    ⟨0xA67E, 0xA67E⟩, ⟨0xA6F2, 0xA6F7⟩, ⟨0xA874, 0xA877⟩, ⟨0xA8CE, 0xA8CF⟩, ⟨0xA8F8, 0xA8FA⟩,
    ⟨0xA8FC, 0xA8FC⟩, ⟨0xA92E, 0xA92F⟩, ⟨0xA95F, 0xA95F⟩, ⟨0xA9C1, 0xA9CD⟩, ⟨0xA9DE, 0xA9DF⟩,
    ⟨0xAA5C, 0xAA5F⟩, ⟨0xAADE, 0xAADF⟩, ⟨0xAAF0, 0xAAF1⟩, ⟨0xABEB, 0xABEB⟩, ⟨0xFE10, 0xFE16⟩,
    ⟨0xFE19, 0xFE19⟩, ⟨0xFE30, 0xFE30⟩, ⟨0xFE45, 0xFE46⟩, ⟨0xFE49, 0xFE4C⟩, ⟨0xFE50, 0xFE52⟩,
    ⟨0xFE54, 0xFE57⟩, ⟨0xFE5F, 0xFE61⟩, ⟨0xFE68, 0xFE68⟩, ⟨0xFE6A, 0xFE6B⟩, ⟨0xFF01, 0xFF03⟩,
    ⟨0xFF05, 0xFF07⟩, ⟨0xFF0A, 0xFF0A⟩, ⟨0xFF0C, 0xFF0C⟩, ⟨0xFF0E, 0xFF0F⟩, ⟨0xFF1A, 0xFF1B⟩,
    ⟨0xFF1F, 0xFF20⟩, ⟨0xFF3C, 0xFF3C⟩, ⟨0xFF61, 0xFF61⟩, ⟨0xFF64, 0xFF65⟩, ⟨0x10100, 0x10102⟩,
    ⟨0x1039F, 0x1039F⟩, ⟨0x103D0, 0x103D0⟩, ⟨0x1056F, 0x1056F⟩, ⟨0x10857, 0x10857⟩,
    ⟨0x1091F, 0x1091F⟩, ⟨0x1093F, 0x1093F⟩, ⟨0x10A50, 0x10A58⟩, ⟨0x10A7F, 0x10A7F⟩,
    ⟨0x10AF0, 0x10AF6⟩, ⟨0x10B39, 0x10B3F⟩, ⟨0x10B99, 0x10B9C⟩, ⟨0x10F55, 0x10F59⟩,
    ⟨0x10F86, 0x10F89⟩, ⟨0x11047, 0x1104D⟩, ⟨0x110BB, 0x110BC⟩, ⟨0x110BE, 0x110C1⟩,
    ⟨0x11140, 0x11143⟩, ⟨0x11174, 0x11175⟩, ⟨0x111C5, 0x111C8⟩, ⟨0x111CD, 0x111CD⟩,
    ⟨0x111DB, 0x111DB⟩, ⟨0x111DD, 0x111DF⟩, ⟨0x11238, 0x1123D⟩, ⟨0x112A9, 0x112A9⟩,
    ⟨0x113D4, 0x113D5⟩, ⟨0x113D7, 0x113D8⟩, ⟨0x1144B, 0x1144F⟩, ⟨0x1145A, 0x1145B⟩,
    ⟨0x1145D, 0x1145D⟩, ⟨0x114C6, 0x114C6⟩, ⟨0x115C1, 0x115D7⟩, ⟨0x11641, 0x11643⟩,
    ⟨0x11660, 0x1166C⟩, ⟨0x116B9, 0x116B9⟩, ⟨0x1173C, 0x1173E⟩, ⟨0x1183B, 0x1183B⟩,
    ⟨0x11944, 0x11946⟩, ⟨0x119E2, 0x119E2⟩, ⟨0x11A3F, 0x11A46⟩, ⟨0x11A9A, 0x11A9C⟩,
    ⟨0x11A9E, 0x11AA2⟩, ⟨0x11B00, 0x11B09⟩, ⟨0x11BE1, 0x11BE1⟩, ⟨0x11C41, 0x11C45⟩,
    ⟨0x11C70, 0x11C71⟩, ⟨0x11EF7, 0x11EF8⟩, ⟨0x11F43, 0x11F4F⟩, ⟨0x11FFF, 0x11FFF⟩,
    ⟨0x12470, 0x12474⟩, ⟨0x12FF1, 0x12FF2⟩, ⟨0x16A6E, 0x16A6F⟩, ⟨0x16AF5, 0x16AF5⟩,
    ⟨0x16B37, 0x16B3B⟩, ⟨0x16B44, 0x16B44⟩, ⟨0x16D6D, 0x16D6F⟩, ⟨0x16E97, 0x16E9A⟩,
    ⟨0x16FE2, 0x16FE2⟩, ⟨0x1BC9F, 0x1BC9F⟩, ⟨0x1DA87, 0x1DA8B⟩, ⟨0x1E5FF, 0x1E5FF⟩,
    ⟨0x1E95E, 0x1E95F⟩]⟩

def punctuation : CharSet :=
  connectorPunctuation ∪ dashPunctuation ∪ openPunctuation ∪ closePunctuation ∪
    initialPunctuation ∪ finalPunctuation ∪ otherPunctuation

def mathSymbol : CharSet :=
  ⟨[⟨0x2B, 0x2B⟩, ⟨0x3C, 0x3E⟩, ⟨0x7C, 0x7C⟩, ⟨0x7E, 0x7E⟩, ⟨0xAC, 0xAC⟩, ⟨0xB1, 0xB1⟩,
    ⟨0xD7, 0xD7⟩, ⟨0xF7, 0xF7⟩, ⟨0x3F6, 0x3F6⟩, ⟨0x606, 0x608⟩, ⟨0x2044, 0x2044⟩,
    ⟨0x2052, 0x2052⟩, ⟨0x207A, 0x207C⟩, ⟨0x208A, 0x208C⟩, ⟨0x2118, 0x2118⟩, ⟨0x2140, 0x2144⟩,
    ⟨0x214B, 0x214B⟩, ⟨0x2190, 0x2194⟩, ⟨0x219A, 0x219B⟩, ⟨0x21A0, 0x21A0⟩, ⟨0x21A3, 0x21A3⟩,
    ⟨0x21A6, 0x21A6⟩, ⟨0x21AE, 0x21AE⟩, ⟨0x21CE, 0x21CF⟩, ⟨0x21D2, 0x21D2⟩, ⟨0x21D4, 0x21D4⟩,
    ⟨0x21F4, 0x22FF⟩, ⟨0x2320, 0x2321⟩, ⟨0x237C, 0x237C⟩, ⟨0x239B, 0x23B3⟩, ⟨0x23DC, 0x23E1⟩,
    ⟨0x25B7, 0x25B7⟩, ⟨0x25C1, 0x25C1⟩, ⟨0x25F8, 0x25FF⟩, ⟨0x266F, 0x266F⟩, ⟨0x27C0, 0x27C4⟩,
    ⟨0x27C7, 0x27E5⟩, ⟨0x27F0, 0x27FF⟩, ⟨0x2900, 0x2982⟩, ⟨0x2999, 0x29D7⟩, ⟨0x29DC, 0x29FB⟩,
    ⟨0x29FE, 0x2AFF⟩, ⟨0x2B30, 0x2B44⟩, ⟨0x2B47, 0x2B4C⟩, ⟨0xFB29, 0xFB29⟩, ⟨0xFE62, 0xFE62⟩,
    ⟨0xFE64, 0xFE66⟩, ⟨0xFF0B, 0xFF0B⟩, ⟨0xFF1C, 0xFF1E⟩, ⟨0xFF5C, 0xFF5C⟩, ⟨0xFF5E, 0xFF5E⟩,
    ⟨0xFFE2, 0xFFE2⟩, ⟨0xFFE9, 0xFFEC⟩, ⟨0x10D8E, 0x10D8F⟩, ⟨0x1D6C1, 0x1D6C1⟩,
    ⟨0x1D6DB, 0x1D6DB⟩, ⟨0x1D6FB, 0x1D6FB⟩, ⟨0x1D715, 0x1D715⟩, ⟨0x1D735, 0x1D735⟩,
    ⟨0x1D74F, 0x1D74F⟩, ⟨0x1D76F, 0x1D76F⟩, ⟨0x1D789, 0x1D789⟩, ⟨0x1D7A9, 0x1D7A9⟩,
    ⟨0x1D7C3, 0x1D7C3⟩, ⟨0x1EEF0, 0x1EEF1⟩]⟩

def currencySymbol : CharSet :=
  ⟨[⟨0x24, 0x24⟩, ⟨0xA2, 0xA5⟩, ⟨0x58F, 0x58F⟩, ⟨0x60B, 0x60B⟩, ⟨0x7FE, 0x7FF⟩, ⟨0x9F2, 0x9F3⟩,
    ⟨0x9FB, 0x9FB⟩, ⟨0xAF1, 0xAF1⟩, ⟨0xBF9, 0xBF9⟩, ⟨0xE3F, 0xE3F⟩, ⟨0x17DB, 0x17DB⟩,
    ⟨0x20A0, 0x20C0⟩, ⟨0xA838, 0xA838⟩, ⟨0xFDFC, 0xFDFC⟩, ⟨0xFE69, 0xFE69⟩, ⟨0xFF04, 0xFF04⟩,
    ⟨0xFFE0, 0xFFE1⟩, ⟨0xFFE5, 0xFFE6⟩, ⟨0x11FDD, 0x11FE0⟩, ⟨0x1E2FF, 0x1E2FF⟩, ⟨0x1ECB0, 0x1ECB0⟩]⟩

def modifierSymbol : CharSet :=
  ⟨[⟨0x5E, 0x5E⟩, ⟨0x60, 0x60⟩, ⟨0xA8, 0xA8⟩, ⟨0xAF, 0xAF⟩, ⟨0xB4, 0xB4⟩, ⟨0xB8, 0xB8⟩,
    ⟨0x2C2, 0x2C5⟩, ⟨0x2D2, 0x2DF⟩, ⟨0x2E5, 0x2EB⟩, ⟨0x2ED, 0x2ED⟩, ⟨0x2EF, 0x2FF⟩,
    ⟨0x375, 0x375⟩, ⟨0x384, 0x385⟩, ⟨0x888, 0x888⟩, ⟨0x1FBD, 0x1FBD⟩, ⟨0x1FBF, 0x1FC1⟩,
    ⟨0x1FCD, 0x1FCF⟩, ⟨0x1FDD, 0x1FDF⟩, ⟨0x1FED, 0x1FEF⟩, ⟨0x1FFD, 0x1FFE⟩, ⟨0x309B, 0x309C⟩,
    ⟨0xA700, 0xA716⟩, ⟨0xA720, 0xA721⟩, ⟨0xA789, 0xA78A⟩, ⟨0xAB5B, 0xAB5B⟩, ⟨0xAB6A, 0xAB6B⟩,
    ⟨0xFBB2, 0xFBC2⟩, ⟨0xFF3E, 0xFF3E⟩, ⟨0xFF40, 0xFF40⟩, ⟨0xFFE3, 0xFFE3⟩, ⟨0x1F3FB, 0x1F3FF⟩]⟩

def otherSymbol : CharSet :=
  ⟨[⟨0xA6, 0xA6⟩, ⟨0xA9, 0xA9⟩, ⟨0xAE, 0xAE⟩, ⟨0xB0, 0xB0⟩, ⟨0x482, 0x482⟩, ⟨0x58D, 0x58E⟩,
    ⟨0x60E, 0x60F⟩, ⟨0x6DE, 0x6DE⟩, ⟨0x6E9, 0x6E9⟩, ⟨0x6FD, 0x6FE⟩, ⟨0x7F6, 0x7F6⟩,
    ⟨0x9FA, 0x9FA⟩, ⟨0xB70, 0xB70⟩, ⟨0xBF3, 0xBF8⟩, ⟨0xBFA, 0xBFA⟩, ⟨0xC7F, 0xC7F⟩,
    ⟨0xD4F, 0xD4F⟩, ⟨0xD79, 0xD79⟩, ⟨0xF01, 0xF03⟩, ⟨0xF13, 0xF13⟩, ⟨0xF15, 0xF17⟩,
    ⟨0xF1A, 0xF1F⟩, ⟨0xF34, 0xF34⟩, ⟨0xF36, 0xF36⟩, ⟨0xF38, 0xF38⟩, ⟨0xFBE, 0xFC5⟩,
    ⟨0xFC7, 0xFCC⟩, ⟨0xFCE, 0xFCF⟩, ⟨0xFD5, 0xFD8⟩, ⟨0x109E, 0x109F⟩, ⟨0x1390, 0x1399⟩,
    ⟨0x166D, 0x166D⟩, ⟨0x1940, 0x1940⟩, ⟨0x19DE, 0x19FF⟩, ⟨0x1B61, 0x1B6A⟩, ⟨0x1B74, 0x1B7C⟩,
    ⟨0x2100, 0x2101⟩, ⟨0x2103, 0x2106⟩, ⟨0x2108, 0x2109⟩, ⟨0x2114, 0x2114⟩, ⟨0x2116, 0x2117⟩,
    ⟨0x211E, 0x2123⟩, ⟨0x2125, 0x2125⟩, ⟨0x2127, 0x2127⟩, ⟨0x2129, 0x2129⟩, ⟨0x212E, 0x212E⟩,
    ⟨0x213A, 0x213B⟩, ⟨0x214A, 0x214A⟩, ⟨0x214C, 0x214D⟩, ⟨0x214F, 0x214F⟩, ⟨0x218A, 0x218B⟩,
    ⟨0x2195, 0x2199⟩, ⟨0x219C, 0x219F⟩, ⟨0x21A1, 0x21A2⟩, ⟨0x21A4, 0x21A5⟩, ⟨0x21A7, 0x21AD⟩,
    ⟨0x21AF, 0x21CD⟩, ⟨0x21D0, 0x21D1⟩, ⟨0x21D3, 0x21D3⟩, ⟨0x21D5, 0x21F3⟩, ⟨0x2300, 0x2307⟩,
    ⟨0x230C, 0x231F⟩, ⟨0x2322, 0x2328⟩, ⟨0x232B, 0x237B⟩, ⟨0x237D, 0x239A⟩, ⟨0x23B4, 0x23DB⟩,
    ⟨0x23E2, 0x2429⟩, ⟨0x2440, 0x244A⟩, ⟨0x249C, 0x24E9⟩, ⟨0x2500, 0x25B6⟩, ⟨0x25B8, 0x25C0⟩,
    ⟨0x25C2, 0x25F7⟩, ⟨0x2600, 0x266E⟩, ⟨0x2670, 0x2767⟩, ⟨0x2794, 0x27BF⟩, ⟨0x2800, 0x28FF⟩,
    ⟨0x2B00, 0x2B2F⟩, ⟨0x2B45, 0x2B46⟩, ⟨0x2B4D, 0x2B73⟩, ⟨0x2B76, 0x2B95⟩, ⟨0x2B97, 0x2BFF⟩,
    ⟨0x2CE5, 0x2CEA⟩, ⟨0x2E50, 0x2E51⟩, ⟨0x2E80, 0x2E99⟩, ⟨0x2E9B, 0x2EF3⟩, ⟨0x2F00, 0x2FD5⟩,
    ⟨0x2FF0, 0x2FFF⟩, ⟨0x3004, 0x3004⟩, ⟨0x3012, 0x3013⟩, ⟨0x3020, 0x3020⟩, ⟨0x3036, 0x3037⟩,
    ⟨0x303E, 0x303F⟩, ⟨0x3190, 0x3191⟩, ⟨0x3196, 0x319F⟩, ⟨0x31C0, 0x31E5⟩, ⟨0x31EF, 0x31EF⟩,
    ⟨0x3200, 0x321E⟩, ⟨0x322A, 0x3247⟩, ⟨0x3250, 0x3250⟩, ⟨0x3260, 0x327F⟩, ⟨0x328A, 0x32B0⟩,
    ⟨0x32C0, 0x33FF⟩, ⟨0x4DC0, 0x4DFF⟩, ⟨0xA490, 0xA4C6⟩, ⟨0xA828, 0xA82B⟩, ⟨0xA836, 0xA837⟩,
    ⟨0xA839, 0xA839⟩, ⟨0xAA77, 0xAA79⟩, ⟨0xFD40, 0xFD4F⟩, ⟨0xFDCF, 0xFDCF⟩, ⟨0xFDFD, 0xFDFF⟩,
    ⟨0xFFE4, 0xFFE4⟩, ⟨0xFFE8, 0xFFE8⟩, ⟨0xFFED, 0xFFEE⟩, ⟨0xFFFC, 0xFFFD⟩, ⟨0x10137, 0x1013F⟩,
    ⟨0x10179, 0x10189⟩, ⟨0x1018C, 0x1018E⟩, ⟨0x10190, 0x1019C⟩, ⟨0x101A0, 0x101A0⟩,
    ⟨0x101D0, 0x101FC⟩, ⟨0x10877, 0x10878⟩, ⟨0x10AC8, 0x10AC8⟩, ⟨0x1173F, 0x1173F⟩,
    ⟨0x11FD5, 0x11FDC⟩, ⟨0x11FE1, 0x11FF1⟩, ⟨0x16B3C, 0x16B3F⟩, ⟨0x16B45, 0x16B45⟩,
    ⟨0x1BC9C, 0x1BC9C⟩, ⟨0x1CC00, 0x1CCEF⟩, ⟨0x1CD00, 0x1CEB3⟩, ⟨0x1CF50, 0x1CFC3⟩,
    ⟨0x1D000, 0x1D0F5⟩, ⟨0x1D100, 0x1D126⟩, ⟨0x1D129, 0x1D164⟩, ⟨0x1D16A, 0x1D16C⟩,
    ⟨0x1D183, 0x1D184⟩, ⟨0x1D18C, 0x1D1A9⟩, ⟨0x1D1AE, 0x1D1EA⟩, ⟨0x1D200, 0x1D241⟩,
    ⟨0x1D245, 0x1D245⟩, ⟨0x1D300, 0x1D356⟩, ⟨0x1D800, 0x1D9FF⟩, ⟨0x1DA37, 0x1DA3A⟩,
    ⟨0x1DA6D, 0x1DA74⟩, ⟨0x1DA76, 0x1DA83⟩, ⟨0x1DA85, 0x1DA86⟩, ⟨0x1E14F, 0x1E14F⟩,
    ⟨0x1ECAC, 0x1ECAC⟩, ⟨0x1ED2E, 0x1ED2E⟩, ⟨0x1F000, 0x1F02B⟩, ⟨0x1F030, 0x1F093⟩,
    ⟨0x1F0A0, 0x1F0AE⟩, ⟨0x1F0B1, 0x1F0BF⟩, ⟨0x1F0C1, 0x1F0CF⟩, ⟨0x1F0D1, 0x1F0F5⟩,
    ⟨0x1F10D, 0x1F1AD⟩, ⟨0x1F1E6, 0x1F202⟩, ⟨0x1F210, 0x1F23B⟩, ⟨0x1F240, 0x1F248⟩,
    ⟨0x1F250, 0x1F251⟩, ⟨0x1F260, 0x1F265⟩, ⟨0x1F300, 0x1F3FA⟩, ⟨0x1F400, 0x1F6D7⟩,
    ⟨0x1F6DC, 0x1F6EC⟩, ⟨0x1F6F0, 0x1F6FC⟩, ⟨0x1F700, 0x1F776⟩, ⟨0x1F77B, 0x1F7D9⟩,
    ⟨0x1F7E0, 0x1F7EB⟩, ⟨0x1F7F0, 0x1F7F0⟩, ⟨0x1F800, 0x1F80B⟩, ⟨0x1F810, 0x1F847⟩,
    ⟨0x1F850, 0x1F859⟩, ⟨0x1F860, 0x1F887⟩, ⟨0x1F890, 0x1F8AD⟩, ⟨0x1F8B0, 0x1F8BB⟩,
    ⟨0x1F8C0, 0x1F8C1⟩, ⟨0x1F900, 0x1FA53⟩, ⟨0x1FA60, 0x1FA6D⟩, ⟨0x1FA70, 0x1FA7C⟩,
    ⟨0x1FA80, 0x1FA89⟩, ⟨0x1FA8F, 0x1FAC6⟩, ⟨0x1FACE, 0x1FADC⟩, ⟨0x1FADF, 0x1FAE9⟩,
    ⟨0x1FAF0, 0x1FAF8⟩, ⟨0x1FB00, 0x1FB92⟩, ⟨0x1FB94, 0x1FBEF⟩]⟩

def symbol : CharSet :=
  mathSymbol ∪ currencySymbol ∪ modifierSymbol ∪ otherSymbol

end RegexExplainer.Unicode
